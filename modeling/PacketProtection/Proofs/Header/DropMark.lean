import PacketProtection.Proofs.Header.Storage

/-!
# Drop marks

A packet is marked for dropping when the metadata reads as the egress that does
not exist and no multicast group.  Marking that succeeds leaves such metadata
(`isDropMarked_markDrop`); marking that fails is never the frame's fault
(`markDrop_error`).  A field set of the metadata layout can always be marked
(`FieldSet.Of.markDrop`).
-/

namespace PacketProtection

namespace HeaderHost

variable {H : Type} [HeaderHost H]

/-- The metadata tells the pipeline to drop the packet. -/
def IsDropMarked (metadata : H) : Prop :=
  getUint metadata "egress_spec" = .ok dropEgress ∧ getUint metadata "mcast_grp" = .ok 0

/-- What a successful marking did. -/
theorem markDrop_eq_ok {metadata marked : H} (done : markDrop metadata = (.ok (), marked)) :
    ∃ between, setUint metadata "egress_spec" dropEgress = .ok between ∧
      setUint between "mcast_grp" 0 = .ok marked := by
  unfold markDrop at done
  split at done
  · cases done
  next between first =>
    split at done
    · cases done
    next final second =>
      cases done
      exact ⟨between, first, second⟩

variable [LawfulHost H]

theorem getUint_setUint_of_ne {host next : H} {name other : String} {number : UInt64}
    (stored : setUint host name number = .ok next) (different : other ≠ name) :
    getUint next other = getUint host other := by
  rw [getUint, getUint, get_setUint_of_ne stored different]

theorem isDropMarked_markDrop {metadata marked : H}
    (done : markDrop metadata = (.ok (), marked)) : IsDropMarked marked := by
  obtain ⟨between, first, second⟩ := markDrop_eq_ok done
  constructor
  · rw [getUint_setUint_of_ne second (by decide)]
    exact getUint_setUint first
  · exact getUint_setUint second

/-- Marking, finished or not, keeps the widths of all fields. -/
theorem narrow_markDrop {metadata : H} (narrow : Narrow metadata) :
    Narrow (markDrop metadata).2 := by
  unfold markDrop
  split
  · exact narrow
  next between first =>
    split
    · exact narrow_setUint narrow first
    next final second => exact narrow_setUint (narrow_setUint narrow first) second

theorem markDrop_error {metadata : H} (narrow : Narrow metadata) {fault : Fault}
    (failed : (markDrop metadata).1 = .error fault) :
    ∃ cause, fault = .error cause ∧ cause.isMalformed = false := by
  unfold markDrop at failed
  split at failed
  next reason refused =>
    cases failed
    exact setUint_error narrow refused
  next between first =>
    split at failed
    next reason refused =>
      cases failed
      exact setUint_error (narrow_setUint narrow first) refused
    · cases failed

end HeaderHost

open HeaderHost

/-- Metadata of the pipeline's own layout can always be marked. -/
theorem FieldSet.Of.markDrop {metadata : FieldSet}
    (sound : FieldSet.Of .standardMetadata metadata) :
    ∃ marked, HeaderHost.markDrop metadata = (.ok (), marked) ∧
      FieldSet.Of .standardMetadata marked := by
  have proper := HeaderLayout.standardMetadata_proper
  obtain ⟨between, first, soundBetween⟩ :=
    sound.setUint proper.names_nodup ⟨"egress_spec", 0, 9⟩ (.head _) (by decide) dropEgress
      (by decide)
  obtain ⟨marked, second, soundMarked⟩ :=
    soundBetween.setUint proper.names_nodup ⟨"mcast_grp", 9, 16⟩ (.tail _ (.head _))
      (by decide) 0 (by decide)
  refine ⟨marked, ?_, soundMarked⟩
  rw [HeaderHost.markDrop, first]
  simp only
  rw [second]

end PacketProtection
