import PoolLedger.Ledger.Derive

/-!
# The rows that are written for an event

Every row that follows from an event says for which one it is, of which kind that is, and when it
was written.
-/

namespace PoolLedger

theorem Payload.kind_ne_fee (p : Payload) : p.kind ≠ .fee := by
  cases p <;> exact EventKind.noConfusion

namespace Event

/-- A change on account of the event. -/
structure Wrote (e : Event) (time height : Int) (c : PoolChange) : Prop where
  eventId : c.eventId = e.id
  kind : c.kind = e.kind
  time : c.time = time
  height : c.height = height

variable {e : Event} {c : PoolChange} {tx : Tx} {time height : Int}

theorem wrote_of_mem_openingChanges (h : c ∈ e.openingChanges) : e.Wrote e.time e.height c := by
  unfold openingChanges at h
  split at h
  case h_1 | h_2 | h_3 | h_4 | h_8 | h_10 =>
    cases List.mem_singleton.1 h
    exact ⟨rfl, rfl, rfl, rfl⟩
  case h_5 => cases h
  case h_6 | h_7 | h_9 =>
    obtain ⟨_, -, rfl⟩ := List.mem_map.1 h
    exact ⟨rfl, rfl, rfl, rfl⟩

theorem wrote_of_mem_settlementChanges (h : c ∈ e.settlementChanges tx time height) :
    e.Wrote time height c := by
  unfold settlementChanges at h
  split at h
  · dsimp only at h
    split at h
    · cases h
    · cases List.mem_singleton.1 h
      exact ⟨rfl, rfl, rfl, rfl⟩
  · cases List.mem_singleton.1 h
    exact ⟨rfl, rfl, rfl, rfl⟩
  · cases h

theorem wrote_of_mem_secondHopChanges (h : c ∈ e.secondHopChanges tx time height) :
    e.Wrote time height c := by
  unfold secondHopChanges at h
  split at h
  · dsimp only at h
    split at h
    · cases h
    · cases List.mem_singleton.1 h
      exact ⟨rfl, rfl, rfl, rfl⟩
  · cases h

theorem Wrote.kind_ne_fee (h : e.Wrote time height c) : c.kind ≠ .fee := by
  rw [h.kind]
  exact e.payload.kind_ne_fee

/-- Only a fee is booked under a kind other than that of its event. -/
theorem kind_of_mem_feeChanges {fee : Fee} (h : c ∈ e.feeChanges fee time height) :
    c.kind = .fee ∧ c.height = height := by
  obtain ⟨_, -, rfl⟩ := List.mem_map.1 h
  exact ⟨rfl, rfl⟩

theorem time_of_mem_feeChanges {fee : Fee} (h : c ∈ e.feeChanges fee time height) :
    c.time = time := by
  obtain ⟨_, -, rfl⟩ := List.mem_map.1 h
  rfl

/-- What is written when an event is stored is of its time and height. -/
theorem stamp_of_mem_creationChanges (h : c ∈ e.creationChanges) :
    c.time = e.time ∧ c.height = e.height := by
  rcases List.mem_append.1 h with h | h
  · rcases List.mem_append.1 h with h | h
    · have hwrote := wrote_of_mem_openingChanges h
      exact ⟨hwrote.time, hwrote.height⟩
    · obtain ⟨tx, -, h⟩ := List.mem_flatMap.1 h
      have hwrote := wrote_of_mem_settlementChanges h
      exact ⟨hwrote.time, hwrote.height⟩
  · split at h
    · cases h
    · exact ⟨time_of_mem_feeChanges h, (kind_of_mem_feeChanges h).2⟩

end Event

end PoolLedger
