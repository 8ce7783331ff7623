import PacketProtection.Bytes
import PacketProtection.Text.Hidden
import PacketProtection.Text.Quoted
import PacketProtection.Hex
import PacketProtection.Log
import PacketProtection.Fault
import PacketProtection.Cipher.Aes
import PacketProtection.Cipher.Counter
import PacketProtection.Cipher.Galois
import PacketProtection.Cipher.Gcm
import PacketProtection.Digest.Md5
import PacketProtection.Digest.Hmac
import PacketProtection.KeyMaterial
import PacketProtection.Header.Bits
import PacketProtection.Header.Layout
import PacketProtection.Header.Host
import PacketProtection.Header.FieldSet
import PacketProtection.View.Format
import PacketProtection.View.Esp
import PacketProtection.View.SecTag
import PacketProtection.Esp.Protocol
import PacketProtection.Esp.Trailer
import PacketProtection.Esp.Frame
import PacketProtection.Esp.Tunnel
import PacketProtection.Macsec.Channel
import PacketProtection.Macsec.Protection
import PacketProtection.Macsec.SecTag
import PacketProtection.Keygen
import PacketProtection.Address
import PacketProtection.Json.Basic
import PacketProtection.Json.Variant
import PacketProtection.Association.Basic
import PacketProtection.Command.Esp
import PacketProtection.Command.Macsec
import PacketProtection.Command.PacketFile
import PacketProtection.Yaml.Cursor
import PacketProtection.Yaml.Scalar
import PacketProtection.Yaml.Token
import PacketProtection.Yaml.Lexer
import PacketProtection.Yaml.Event
import PacketProtection.Yaml.Document
import PacketProtection.Association.Value
import PacketProtection.Association.Document
import PacketProtection.CommandLine.Grammar
import PacketProtection.CommandLine.Reading
import PacketProtection.CommandLine.Help
import PacketProtection.CommandLine.Completion
import PacketProtection.Tool.Grammar
import PacketProtection.Tool.Invocation
import PacketProtection.Command.Keygen
import PacketProtection.Process.Basic
import PacketProtection.Process.Directory
import PacketProtection.Tool.Program
import PacketProtection.Process.Clock
import PacketProtection.Main
import PacketProtection.Proofs.Header.Field
import PacketProtection.Proofs.Header.LawfulHost
import PacketProtection.Proofs.Header.Storage
import PacketProtection.Proofs.Header.DropMark
import PacketProtection.Proofs.Header.Packing
import PacketProtection.Proofs.Header.Refusal
import PacketProtection.Proofs.Header.Runs
import PacketProtection.Proofs.Header.Bijection
import PacketProtection.Proofs.Header.Aligned
import PacketProtection.Proofs.Header.Permissive
import PacketProtection.Proofs.Header.Overflow
import PacketProtection.Proofs.Header.Foreign
import PacketProtection.Proofs.Cipher.Keystream
import PacketProtection.Proofs.Cipher.Blockwise
import PacketProtection.Proofs.BitFlip
import PacketProtection.Proofs.Cipher.Residue
import PacketProtection.Proofs.Cipher.Tag
import PacketProtection.Proofs.HexDigits
import PacketProtection.Proofs.HexText
import PacketProtection.Proofs.MacAddress
import PacketProtection.Proofs.Macsec.RoundTrip
import PacketProtection.Proofs.Macsec.Image
import PacketProtection.Proofs.Macsec.Tampering
import PacketProtection.Proofs.Esp.Frame
import PacketProtection.Proofs.Esp.Ending
import PacketProtection.Proofs.Esp.RoundTrip
import PacketProtection.Proofs.Esp.WireFormat
import PacketProtection.Proofs.Esp.Atomicity
import PacketProtection.Proofs.Esp.Vectors
import PacketProtection.Proofs.Esp.Outcome
import PacketProtection.Proofs.Esp.Separation
import PacketProtection.Proofs.Esp.TrailerGrammar
import PacketProtection.Proofs.Respelling
import PacketProtection.Proofs.Disclosure
import PacketProtection.Proofs.Command.Headers
import PacketProtection.Proofs.Command.Release
import PacketProtection.Proofs.Command.Tunnel
import PacketProtection.Proofs.Command.Checksum
import PacketProtection.Proofs.Command.OuterHeader
import PacketProtection.Proofs.Command.Inside
import PacketProtection.Proofs.View.SecTag
import PacketProtection.Proofs.View.Format
import PacketProtection.Proofs.View.Partition
import PacketProtection.Proofs.Command.Frames
import PacketProtection.Proofs.Macsec.TagBuilder
import PacketProtection.Proofs.Command.SelfDescription
import PacketProtection.Proofs.Command.FrameRelease
import PacketProtection.Proofs.Command.HandOver
import PacketProtection.Proofs.Command.ChannelReport
import PacketProtection.Proofs.CommandLine.Matches
import PacketProtection.Proofs.CommandLine.Leniency
import PacketProtection.Proofs.Tool.Rounds
import PacketProtection.Proofs.Command.PacketFile
import PacketProtection.Proofs.Association.HexValue
import PacketProtection.Proofs.Association.Entries
import PacketProtection.Proofs.Association.File
import PacketProtection.Proofs.Yaml.PlainWord
import PacketProtection.Proofs.Yaml.LexerStep
import PacketProtection.Proofs.Yaml.BlockLine
import PacketProtection.Proofs.Yaml.Block
import PacketProtection.Proofs.Association.Written
import PacketProtection.Proofs.Association.KeySlot
import PacketProtection.Proofs.Keygen
