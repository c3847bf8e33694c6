import PromptTrainer.Proofs.TimestampText
import PromptTrainer.Variable.Codec
/-!
# Variables read back from their JSON form

`Variable.toJson` writes a variable as JSON and `Decode.trainable` reads one.  Reading the
JSON form of a variable gives the variable back (`Decode.trainable_toJson`) when the form
carries it exactly (`Variable.Portable`): a reward that is not finite is written as null and
read back as none, and the instant is written as RFC 3339 text, which carries the instants of
`Timestamp.Valid`.

Conversely, every instant read is valid (`Decode.trainable_updatedAt_valid`).  A record is read
by folding its members, or its items, into a draft; what every step of the fold keeps holds of
the draft the last check receives (`Decode.record_invariant`), and the one step that sets the
instant reads it from text.
-/

namespace PromptTrainer

/-- A reward that the JSON form writes as itself: none, or a finite double. -/
def Reward.isPortable : Option Float → Bool
  | some r => r.isFinite
  | none => true

/-- Every reward of a variable, in its predictions, its instructions and its candidates, is
written as itself. -/
structure Variable.RewardsPortable (v : Variable) : Prop where
  predictions : ∀ p ∈ v.predictions, Reward.isPortable p.reward = true
  instructions : ∀ i ∈ v.instructions, Reward.isPortable i.reward = true
  candidates : ∀ c ∈ v.candidates, Reward.isPortable c.reward = true

/-- A variable that its JSON form carries exactly: its rewards are written as themselves and
its instant is one that RFC 3339 text carries. -/
structure Variable.Portable (v : Variable) : Prop extends v.RewardsPortable where
  updatedAt : v.updatedAt.Valid

namespace Decode

/-! ### Writing and reading back -/

/-- A reward that is none or finite is read back from its JSON form. -/
theorem reward_toJson {r : Option Float} (portable : Reward.isPortable r = true) :
    reward (Reward.toJson r) = .ok r := by
  cases r with
  | none => rfl
  | some x =>
    simp only [Reward.isPortable] at portable
    simp only [Reward.toJson, portable, if_true]
    rfl

/-- A list whose items are each read back from their JSON form is read back from the array of
them. -/
theorem list_map {α : Type} {item : Json → Result α} {encode : α → Json} {xs : List α}
    (each : ∀ x ∈ xs, item (encode x) = .ok x) : list item (.array (xs.map encode)) = .ok xs := by
  induction xs with
  | nil => rfl
  | cons x rest ih =>
    have tail := ih (fun y member => each y (List.mem_cons_of_mem x member))
    simp only [list] at tail ⊢
    simp [List.mapM_cons, each x List.mem_cons_self, tail, bind, Except.bind, pure, Except.pure]

theorem prediction_toJson {p : Prediction} (portable : Reward.isPortable p.reward = true) :
    prediction p.toJson = .ok p := by
  simp [prediction, record, Prediction.toJson, reward_toJson portable, string, members, required,
    bind, Except.bind, pure, Except.pure]

theorem instructions_toJson {i : Instructions} (portable : Reward.isPortable i.reward = true) :
    instructions i.toJson = .ok i := by
  have lines : list string (Json.ofStrings i.lines) = .ok i.lines := list_map (fun _ _ => rfl)
  simp [instructions, record, Instructions.toJson, reward_toJson portable, string, lines, required,
    bind, Except.bind, pure, Except.pure]

theorem option_instructions_toJson {i : Instructions} (portable : Reward.isPortable i.reward = true) :
    option instructions i.toJson = .ok (some i) := by
  show (instructions i.toJson).map some = _
  rw [instructions_toJson portable]
  rfl

theorem phase_name (p : Phase) : phase (.string p.name) = .ok p := by
  cases p <;> rfl

theorem unsigned_nat (n : Nat) : unsigned (Json.nat n) = .ok n := by
  simp [unsigned, Json.nat]

theorem timestamp_text {t : Timestamp} (valid : t.Valid) : timestamp (.string t.text) = .ok t := by
  simp only [timestamp, Timestamp.ofText_text valid]

/-- A portable variable is read back from its JSON form. -/
theorem trainable_toJson {v : Variable} (portable : v.Portable) : trainable v.toJson = .ok v := by
  have predictions :
      list prediction (.array (v.predictions.map Prediction.toJson)) = .ok v.predictions :=
    list_map (fun p member => prediction_toJson (portable.predictions p member))
  have candidates :
      list instructions (.array (v.candidates.map Instructions.toJson)) = .ok v.candidates :=
    list_map (fun c member => instructions_toJson (portable.candidates c member))
  cases held : v.instructions with
  | none =>
    simp [trainable, record, Variable.toJson, held, predictions, candidates, phase_name, unsigned_nat,
      timestamp_text portable.updatedAt, string, required, option, bind, Except.bind, pure, Except.pure]
    cases v
    cases held
    rfl
  | some i =>
    have active := option_instructions_toJson (portable.instructions i held)
    simp [trainable, record, Variable.toJson, held, predictions, candidates, active, phase_name,
      unsigned_nat, timestamp_text portable.updatedAt, string, required, bind, Except.bind, pure,
      Except.pure]
    cases v
    cases held
    rfl

/-! ### What reading keeps -/

section Invariant

variable {σ : Type} (P : σ → Prop) {step : σ → String → Json → Result σ}
  (preserved : ∀ acc name j acc', P acc → step acc name j = .ok acc' → P acc')
include preserved

/-- Folding the members of an object keeps what every step keeps; skipped members keep the draft. -/
theorem foldlM_invariant (fields : List (String × Bool)) (ms : List (String × Json)) :
    ∀ {acc acc' : σ}, P acc →
      ms.foldlM (fun acc m => if fields.any (fun f => f.1 == m.1) then step acc m.1 m.2 else .ok acc)
        acc = .ok acc' → P acc' := by
  induction ms with
  | nil => intro acc acc' holds ran; cases ran; exact holds
  | cons m rest ih =>
    intro acc acc' holds ran
    simp only [List.foldlM_cons, bind, Except.bind] at ran
    split at ran
    · cases ran
    · rename_i next stepped
      refine ih ?_ ran
      split at stepped
      · exact preserved acc m.1 m.2 next holds stepped
      · cases stepped; exact holds

/-- Folding the items of an array, field by field, keeps what every step keeps. -/
theorem positional_invariant {title : String} {fields : List (String × Bool)} {count : Nat}
    {items : List Json} (remaining : List (String × Bool)) :
    ∀ {more : List Json} {i : Nat} {acc acc' : σ}, P acc →
      positional title fields step count items remaining more i acc = .ok acc' → P acc' := by
  induction remaining with
  | nil =>
    intro more i acc acc' holds ran
    cases more with
    | nil => cases ran; exact holds
    | cons _ _ => cases ran
  | cons field rest ih =>
    intro more i acc acc' holds ran
    cases more with
    | cons item others =>
      simp only [positional, bind, Except.bind] at ran
      split at ran
      · cases ran
      · rename_i next stepped
        exact ih (preserved acc field.1 item next holds stepped) ran
    | nil =>
      simp only [positional] at ran
      split at ran
      · cases ran
      · exact ih holds ran

/-- What every step of reading a record keeps holds of the draft it hands to the last check. -/
theorem record_invariant {α : Type} {title : String} {fields : List (String × Bool)} {start : σ}
    {finish : σ → Result α} (initial : P start) {j : Json} {a : α}
    (read : record title fields start step finish j = .ok a) : ∃ acc, P acc ∧ finish acc = .ok a := by
  cases j with
  | object ms =>
    simp only [record, bind, Except.bind] at read
    split at read
    · cases read
    · rename_i acc folded
      exact ⟨acc, foldlM_invariant P preserved fields ms initial folded, read⟩
  | array items =>
    simp only [record, bind, Except.bind] at read
    split at read
    · cases read
    · rename_i acc folded
      exact ⟨acc, positional_invariant P preserved fields initial folded, read⟩
  | _ => cases read

end Invariant

/-- Every item of a list read is read from an item of the list. -/
theorem exists_of_mem_list {α : Type} {item : Json → Result α} {j : Json} {xs : List α}
    (read : list item j = .ok xs) : ∀ x ∈ xs, ∃ i, item i = .ok x := by
  cases j with
  | array items =>
    simp only [list] at read
    induction items generalizing xs with
    | nil => cases read; intro x member; cases member
    | cons i rest ih =>
      simp only [List.mapM_cons, bind, Except.bind] at read
      split at read
      · cases read
      · rename_i first readFirst
        split at read
        · cases read
        · rename_i others readRest
          cases read
          intro x member
          rcases List.mem_cons.mp member with rfl | later
          · exact ⟨i, readFirst⟩
          · exact ih readRest x later
  | _ => cases read

/-! ### Instants read -/

theorem timestamp_valid {j : Json} {t : Timestamp} (read : timestamp j = .ok t) : t.Valid := by
  unfold timestamp at read
  split at read
  · split at read
    · cases read
      exact Timestamp.ofText_valid ‹_›
    · cases read
  · cases read

/-- The instant of every variable read is valid. -/
theorem trainable_updatedAt_valid {j : Json} {v : Variable} (read : trainable j = .ok v) :
    v.updatedAt.Valid := by
  unfold trainable at read
  -- every instant a draft holds was read from text
  obtain ⟨d, valid, finished⟩ := record_invariant (fun d : VariableDraft => ∀ t ∈ d.updatedAt, t.Valid)
    (by
      intro d name j d' holds ran
      split at ran <;> simp only [bind, Except.bind, pure, Except.pure] at ran <;> split at ran <;>
        cases ran
      all_goals first
        | exact holds
        | intro t member
          cases member
          exact timestamp_valid ‹_›)
    (fun _ member => by cases member) read
  cases held : d.updatedAt with
  | none =>
    simp only [required, held, bind, Except.bind] at finished
    split at finished <;> cases finished
  | some t =>
    simp only [required, held, bind, Except.bind] at finished
    split at finished
    · cases finished
    · cases finished
      exact valid t held

end Decode

end PromptTrainer
