import MailRound.Proofs.Twins.Kinship

namespace MailRound.Poller

variable {ω φ : Type} {d : Offset}

/-- A worker that has just been spawned waits for the same as one that has woken up. -/
def Phase.woken : Phase φ → Phase φ
  | .fresh => .idle
  | phase => phase

/-- The same place at the distance, unless one of the workers has still to wake up. -/
def Phase.Twins (d : Offset) (phase phase' : Phase φ) : Prop :=
  phase'.woken = phase.woken.ahead d

theorem Phase.woken_ahead (d : Offset) (phase : Phase φ) :
    (phase.ahead d).woken = phase.woken.ahead d := by
  cases phase <;> rfl

theorem Phase.twins_ahead (d : Offset) (phase : Phase φ) : phase.Twins d (phase.ahead d) :=
  phase.woken_ahead d

instance (d : Offset) : Phase.Blurs (Phase.Twins d : Phase φ → Phase φ → Prop) where
  fresh := rfl
  ends {phase phase'} twins := by
    cases phase <;> cases phase' <;> first
      | exact .inr ⟨rfl, rfl⟩
      | exact .inl twins
      | cases twins

namespace Worker

abbrev Twins (d : Offset) : Worker φ → Worker φ → Prop := Kin d (Phase.Twins d)

theorem twins_ahead (d : Offset) (w : Worker φ) : w.Twins d (w.ahead d) :=
  ⟨_, w.phase.twins_ahead d, rfl⟩

theorem Twins.leads {w w' : Worker φ} (h : w.Twins d w') (awake : w.phase ≠ .fresh)
    (awake' : w'.phase ≠ .fresh) : w' = w.ahead d := by
  obtain ⟨phase, place, rfl⟩ := h
  obtain ⟨serial, before, signal, closed, stop⟩ := w
  have same : phase = before.ahead d := by
    cases before <;> cases phase <;>
      first | exact place | exact absurd rfl awake | exact absurd rfl awake'
  subst same
  rfl

end Worker

abbrev Twins (d : Offset) : Poller ω φ → Poller ω φ → Prop := Kin d (Phase.Twins d)

theorem Leads.twins {p p' : Poller ω φ} (leads : p.Leads d p') : p.Twins d p' := by
  obtain ⟨log, rfl⟩ := leads
  refine ⟨rfl, ⟨log, rfl⟩, ?_, ?_, rfl⟩
  · cases here : p.worker with
    | none => simp [Poller.ahead, here]
    | some w => simpa [Poller.ahead, here] using w.twins_ahead d
  · exact List.forall₂_map_right_iff.2 (List.forall₂_same.2 fun w _ => w.twins_ahead d)

end MailRound.Poller
