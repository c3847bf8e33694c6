import PromptTrainer.Proofs.VariableJson
import PromptTrainer.Proofs.Versions
import Mathlib.Data.List.Nodup
/-!
# Restoring a store from its snapshot

A snapshot lists the JSON form of every variable of a store in key order, and a restore reads
them all and inserts each as it is.  For the stores that calls build, the two are inverse:
restoring a store's snapshot into an empty store with room for its variables builds the same
variables in the same order, and restoring it into the store itself changes nothing
(`VariableStore.restore_snapshot_inverse`).

The snapshot reads back as the store's variables when every variable is portable
(`Variable.Portable`), and calls keep every variable portable
(`VariableStore.Portable.perform`) when the rewards they bring are finite
(`StoreCall.Portable`): a write stamps the store's clock, a scored reward is checked, and a
restore reads its instants from text.  A store's keys are distinct
(`VariableStore.coherent_performAll`), so restoring its variables into an empty store appends
them one after another, and restoring them into the store overwrites each with itself.
-/

namespace PromptTrainer

/-- The rewards an update brings are written as themselves. -/
structure VariableUpdate.RewardsPortable (u : VariableUpdate) : Prop where
  predictions : ∀ ps ∈ u.predictions, ∀ p ∈ ps, Reward.isPortable p.reward = true
  instructions : ∀ o ∈ u.instructions, ∀ i ∈ o, Reward.isPortable i.reward = true
  candidates : ∀ cs ∈ u.candidates, ∀ c ∈ cs, Reward.isPortable c.reward = true

/-- The rewards a call brings are written as themselves.  An attached reward is checked by the
call itself, and a write stamps the store's clock, so only the rewards given matter; a restore
brings the variables it reads. -/
def StoreCall.Portable : StoreCall → Prop
  | .register _ initial => ∀ i ∈ initial, Reward.isPortable i.reward = true
  | .appendPrediction _ p => Reward.isPortable p.reward = true
  | .set _ u => u.RewardsPortable
  | .replace v => v.RewardsPortable
  | .restore document => ∀ listed restored, document.get? "variables" = some listed →
      Decode.list Decode.trainable listed = .ok restored → ∀ v ∈ restored, v.RewardsPortable
  | _ => True

/-! ### Variables written by calls -/

/-- A write stamped with a valid instant keeps a variable portable. -/
theorem Variable.RewardsPortable.touch {v : Variable} (rewards : v.RewardsPortable) {now : Timestamp}
    (valid : now.Valid) : (v.touch now).Portable :=
  ⟨⟨rewards.predictions, rewards.instructions, rewards.candidates⟩, valid⟩

/-- Merging an update whose rewards are portable keeps them portable. -/
theorem Variable.RewardsPortable.apply {v : Variable} (rewards : v.RewardsPortable) {u : VariableUpdate}
    (update : u.RewardsPortable) : (v.apply u).RewardsPortable := by
  refine ⟨?_, ?_, ?_⟩
  · cases held : u.predictions with
    | none => simpa [Variable.apply, held] using rewards.predictions
    | some ps => simpa [Variable.apply, held] using update.predictions ps held
  · cases held : u.instructions with
    | none => simpa [Variable.apply, held] using rewards.instructions
    | some o => simpa [Variable.apply, held] using update.instructions o held
  · cases held : u.candidates with
    | none => simpa [Variable.apply, held] using rewards.candidates
    | some cs => simpa [Variable.apply, held] using update.candidates cs held

/-- Scoring one prediction with a finite reward keeps the predictions' rewards portable. -/
theorem Reward.isPortable_scored {ps : List Prediction}
    (each : ∀ p ∈ ps, Reward.isPortable p.reward = true) (index : Nat) {r : Float}
    (finite : Reward.isPortable (some r) = true) :
    ∀ p ∈ ps.modify index (fun p => { p with reward := some r }),
      Reward.isPortable p.reward = true := by
  intro p member
  obtain ⟨j, inside, rfl⟩ := List.mem_iff_getElem.mp member
  rw [List.getElem_modify]
  split
  · exact finite
  · exact each _ (List.getElem_mem _)

/-- An accepted reward is finite. -/
theorem Reward.isPortable_of_rewardRefusal {r : Float}
    (accepted : VariableStore.rewardRefusal r = none) : Reward.isPortable (some r) = true := by
  unfold VariableStore.rewardRefusal at accepted
  split at accepted
  · rename_i valid
    simp only [Reward.isValid, Bool.and_eq_true] at valid
    exact valid.1.1
  · cases accepted

namespace VariableStore

/-- A store whose snapshot carries it exactly: its clock stamps valid instants and every
variable it holds is portable. -/
structure Portable (s : VariableStore) : Prop where
  clock : s.clock.Valid
  entries : ∀ v ∈ s.entries, v.Portable

/-- An overwritten entry is an old entry or the new variable. -/
theorem mem_overwrite {entries : List Variable} {v x : Variable} (member : x ∈ overwrite entries v) :
    x ∈ entries ∨ x = v := by
  obtain ⟨e, stored, rfl⟩ := List.mem_map.mp member
  split
  · exact .inr rfl
  · exact .inl stored

/-- Overwriting an entry with a portable variable keeps a store portable. -/
theorem Portable.overwrite {s : VariableStore} (portable : s.Portable) {v : Variable}
    (written : v.Portable) :
    ({ s with entries := VariableStore.overwrite s.entries v } : VariableStore).Portable :=
  ⟨portable.clock, fun x member => (mem_overwrite member).elim (portable.entries x) (· ▸ written)⟩

/-- An insertion keeps a store portable when the variable's rewards are portable and, for a
restore, which keeps the variable's instant, its instant is valid. -/
theorem Portable.insert {s : VariableStore} (portable : s.Portable) (mode : InsertMode) {v : Variable}
    (rewards : v.RewardsPortable) (restored : mode = .restore → v.updatedAt.Valid) :
    (s.insert mode v).1.Portable := by
  unfold VariableStore.insert
  split
  · cases mode with
    | ifAbsent => exact portable
    | commit =>
      exact portable.overwrite
        ⟨⟨rewards.predictions, rewards.instructions, rewards.candidates⟩, portable.clock⟩
    | restore => exact portable.overwrite ⟨rewards, restored rfl⟩
  · refine ⟨portable.clock, fun x member => ?_⟩
    rcases List.mem_append.mp member with kept | stored
    · split at kept
      · exact portable.entries x (List.mem_of_mem_drop kept)
      · exact portable.entries x kept
    · rw [List.mem_singleton.mp stored]
      split
      · rename_i isRestore
        have isRestore : mode = .restore := by
          cases mode <;> first | rfl | exact absurd isRestore (by decide)
        exact ⟨rewards, restored isRestore⟩
      · exact rewards.touch portable.clock

/-- A change in place keeps a store portable, however it ends, when a change that ends with a
value keeps the variable's rewards portable and one that fails leaves the variable portable. -/
theorem Portable.modify {α : Type} {s : VariableStore} (portable : s.Portable) (key : String)
    {change : VariableChange α}
    (keeps : ∀ v, v.Portable → (∀ a after, change v = .ok a after → after.RewardsPortable) ∧
      ∀ e after, change v = .error e after → after.Portable) :
    (s.modify key change).store.Portable := by
  cases stored : s.get? key with
  | none =>
    rw [modify_of_missing stored]
    exact portable
  | some v =>
    have kept := keeps v (portable.entries v (mem_of_get? stored))
    cases ran : change v with
    | ok a after =>
      rw [modify_of_stored stored ran]
      exact portable.overwrite ((kept.1 a after ran).touch portable.clock)
    | error e after =>
      rw [modify_of_refused stored ran]
      exact portable.overwrite (kept.2 e after ran)

theorem Portable.foldl_insert_restore (restored : List Variable) (each : ∀ v ∈ restored, v.Portable) :
    ∀ {t : VariableStore}, t.Portable →
      (restored.foldl (fun acc v => (acc.insert .restore v).1) t).Portable := by
  induction restored with
  | nil => exact id
  | cons v rest ih =>
    intro t portable
    have first := each v List.mem_cons_self
    exact ih (fun w member => each w (List.mem_cons_of_mem v member))
      (portable.insert .restore first.toRewardsPortable fun _ => first.updatedAt)

/-- Every call keeps a store portable, however it ends, when the rewards it brings are
portable. -/
theorem Portable.perform {s : VariableStore} (portable : s.Portable) {c : StoreCall}
    (callPortable : c.Portable) : (s.perform c).Portable := by
  cases c with
  | register key initial =>
    exact portable.insert .ifAbsent
      ⟨fun _ absent => (by cases absent), callPortable, fun _ absent => (by cases absent)⟩
      (fun ifAbsent => by cases ifAbsent)
  | appendPrediction key p =>
    simp only [VariableStore.perform, call_appendPrediction, store_ended]
    refine portable.modify key fun v written =>
      ⟨fun a after appended => ?_, fun e after refused => by cases refused⟩
    cases appended
    have rewards := written.toRewardsPortable
    refine ⟨fun q member => ?_, rewards.instructions, rewards.candidates⟩
    rcases List.mem_append.mp member with old | new
    · exact rewards.predictions q old
    · rw [List.mem_singleton.mp new]
      exact callPortable
  | attachReward key index r =>
    simp only [VariableStore.perform, call_attachReward]
    split
    · exact portable
    · rename_i accepted
      refine portable.modify key fun v written => ⟨fun a after scored => ?_, fun e after refused => ?_⟩
      · dsimp only at scored
        split at scored
        · cases scored
          have rewards := written.toRewardsPortable
          exact ⟨Reward.isPortable_scored rewards.predictions index
            (Reward.isPortable_of_rewardRefusal accepted), rewards.instructions, rewards.candidates⟩
        · cases scored
      · dsimp only at refused
        split at refused
        · cases refused
        · cases refused
          exact written
  | set key u =>
    simp only [VariableStore.perform, call_set, store_ended, store_set]
    refine portable.modify key fun w written =>
      ⟨fun a after applied => ?_, fun e after refused => by cases refused⟩
    cases applied
    exact written.toRewardsPortable.apply callPortable
  | replace v => exact portable.insert .commit callPortable (fun commit => by cases commit)
  | lock key =>
    simp only [VariableStore.perform, call_lock]
    split <;> exact ⟨portable.clock, portable.entries⟩
  | unlock key => exact ⟨portable.clock, portable.entries⟩
  | restore document =>
    simp only [VariableStore.perform, call_restore, store_ended]
    cases listed : document.get? "variables" with
    | none => simpa [restore, listed, decided] using portable
    | some values =>
      cases decoded : Decode.list Decode.trainable values with
      | error message => simpa [restore, listed, decoded, decided] using portable
      | ok restored =>
        simp only [restore, listed, decoded, decided, StoreResult.store_ok]
        refine Portable.foldl_insert_restore restored (fun v member => ?_) portable
        obtain ⟨item, readItem⟩ := Decode.exists_of_mem_list decoded v member
        exact ⟨callPortable values restored listed decoded v member,
          Decode.trainable_updatedAt_valid readItem⟩

/-- Calls made one after another keep a store portable. -/
theorem Portable.performAll (calls : List StoreCall) (each : ∀ c ∈ calls, c.Portable) :
    ∀ {s : VariableStore}, s.Portable → (s.performAll calls).Portable := by
  induction calls with
  | nil => exact id
  | cons c rest ih =>
    intro s portable
    exact ih (fun d member => each d (List.mem_cons_of_mem c member))
      (portable.perform (each c List.mem_cons_self))

/-! ### Restoring a snapshot -/

/-- A snapshot lists the JSON form of every variable. -/
theorem get?_snapshot (s : VariableStore) :
    s.snapshot.get? "variables" = some (.array (s.entries.map Variable.toJson)) := by
  simp [snapshot, Json.get?, Json.lookup]

/-- Restoring the snapshot of a store of portable variables inserts its variables, in order, as
they are. -/
theorem restore_snapshot {s : VariableStore} (entries : ∀ v ∈ s.entries, v.Portable)
    (t : VariableStore) :
    t.restore s.snapshot =
      .ok (s.entries.length, s.entries.foldl (fun acc v => (acc.insert .restore v).1) t) := by
  have decoded :
      Decode.list Decode.trainable (.array (s.entries.map Variable.toJson)) = .ok s.entries :=
    Decode.list_map fun v member => Decode.trainable_toJson (entries v member)
  simp only [restore, get?_snapshot, decoded]

theorem get?_eq_none_of_not_mem_keys {s : VariableStore} {key : String} (absent : key ∉ s.keys) :
    s.get? key = none := by
  cases found : s.get? key with
  | none => rfl
  | some v => exact absurd (mem_keys_of_get? found) absent

/-- A restored new key goes last in a store with room for it. -/
theorem insert_restore_new {s : VariableStore} {v : Variable} (absent : s.get? v.key = none)
    (room : s.entries.length < s.capacity) :
    (s.insert .restore v).1 = { s with entries := s.entries ++ [v] } := by
  have restoring : (InsertMode.restore == InsertMode.restore) = true := rfl
  simp [VariableStore.insert, absent, Nat.not_le.mpr room, restoring]

/-- Restoring variables of new and distinct keys into a store with room for them appends them in
order. -/
theorem foldl_insert_restore_fresh (restored : List Variable) :
    ∀ {t : VariableStore}, ((t.entries ++ restored).map Variable.key).Nodup →
      t.entries.length + restored.length ≤ t.capacity →
      restored.foldl (fun acc v => (acc.insert .restore v).1) t =
        { t with entries := t.entries ++ restored } := by
  induction restored with
  | nil => intro t _ _; simp
  | cons v rest ih =>
    intro t distinct room
    have fresh : v.key ∉ t.keys := fun member =>
      (List.nodup_append.mp (List.map_append ▸ distinct)).2.2 _ member _ (by simp) rfl
    rw [List.foldl_cons, insert_restore_new (get?_eq_none_of_not_mem_keys fresh)
      (by simp at room; omega)]
    rw [ih (by simpa using distinct) (by simp at room ⊢; omega)]
    simp

theorem insert_restore_stored {s : VariableStore} (distinct : s.keys.Nodup) {v : Variable}
    (member : v ∈ s.entries) : (s.insert .restore v).1 = s := by
  simp only [VariableStore.insert, get?_of_mem distinct member, overwrite_of_mem distinct member]

/-- Restoring variables that a store of distinct keys holds changes nothing. -/
theorem foldl_insert_restore_stored {s : VariableStore} (distinct : s.keys.Nodup)
    (restored : List Variable) (stored : ∀ v ∈ restored, v ∈ s.entries) :
    restored.foldl (fun acc v => (acc.insert .restore v).1) s = s := by
  induction restored with
  | nil => rfl
  | cons v rest ih =>
    rw [List.foldl_cons, insert_restore_stored distinct (stored v List.mem_cons_self)]
    exact ih (fun w member => stored w (List.mem_cons_of_mem v member))

/-- Snapshot and restore are inverse on every store reached from an empty one by calls whose
rewards are finite, under a clock of valid instants.  Restoring the store's snapshot into an
empty store of any capacity that holds its variables answers their number and stores the same
variables in the same order, so the same keys in the same order and, under each key, the same
variable.  Restoring the snapshot into the store itself answers the same number and leaves the
store as it was. -/
theorem restore_snapshot_inverse
    {n : Nat}
    {clock : Timestamp}
    {calls : List StoreCall}
    {s : VariableStore}
    (reached : (empty n clock).performAll calls = s)
    (clockValid : clock.Valid)
    (portable : ∀ c ∈ calls, c.Portable) :
    (∀ m clock', s.entries.length ≤ m →
      (empty m clock').restore s.snapshot =
        .ok (s.entries.length, { empty m clock' with entries := s.entries })) ∧
    s.restore s.snapshot = .ok (s.entries.length, s) := by
  have coherent : s.Coherent := reached ▸ coherent_performAll calls (empty_coherent n clock)
  have entries : ∀ v ∈ s.entries, v.Portable :=
    (reached ▸ Portable.performAll calls portable ⟨clockValid, fun _ absent => by cases absent⟩ :
      s.Portable).entries
  refine ⟨fun m clock' room => ?_, ?_⟩
  · rw [restore_snapshot entries,
      foldl_insert_restore_fresh s.entries (t := empty m clock') coherent.distinct
        (by simp [empty]; omega)]
    rfl
  · rw [restore_snapshot entries,
      foldl_insert_restore_stored coherent.distinct s.entries (fun _ => id)]

/-- A store that registered `a` comes back from its snapshot, into an empty store and into
itself. -/
theorem restore_snapshot_inverse_registered :
    Timestamp.epoch.Valid ∧ (∀ c ∈ [StoreCall.register "a" none], c.Portable) ∧
      ((∀ m clock',
        ((empty 1 Timestamp.epoch).performAll [.register "a" none]).entries.length ≤ m →
          (empty m clock').restore
              ((empty 1 Timestamp.epoch).performAll [.register "a" none]).snapshot =
            .ok (((empty 1 Timestamp.epoch).performAll [.register "a" none]).entries.length,
              { empty m clock' with
                entries := ((empty 1 Timestamp.epoch).performAll [.register "a" none]).entries })) ∧
        ((empty 1 Timestamp.epoch).performAll [.register "a" none]).restore
            ((empty 1 Timestamp.epoch).performAll [.register "a" none]).snapshot =
          .ok (((empty 1 Timestamp.epoch).performAll [.register "a" none]).entries.length,
            (empty 1 Timestamp.epoch).performAll [.register "a" none])) := by
  have valid : Timestamp.epoch.Valid := ⟨by decide, by decide, by decide⟩
  have portable : ∀ c ∈ [StoreCall.register "a" none], c.Portable := by
    intro c member
    rw [List.mem_singleton.mp member]
    exact fun _ absent => by cases absent
  exact ⟨valid, portable, restore_snapshot_inverse rfl valid portable⟩

/-- Without finite rewards the inverse fails: a store that registered `a` and recorded a
prediction scored infinity does not come back from its snapshot.  JSON has no infinity, so the
reward is written as null and read back as none, and the restored prediction is unscored. -/
theorem restore_snapshot_loses_infinite_reward :
    (((empty 1 .epoch).performAll [.register "a" none,
        .appendPrediction "a" ⟨"Prediction", [], [], some (1.0 / 0.0)⟩]).get? "a").map
        Variable.unscoredCount = some 0 ∧
    ((empty 1 .epoch).restore ((empty 1 .epoch).performAll [.register "a" none,
        .appendPrediction "a" ⟨"Prediction", [], [], some (1.0 / 0.0)⟩]).snapshot).toOption.map
      (fun restored => (restored.2.get? "a").map Variable.unscoredCount) = some (some 1) := by
  decide +kernel

end VariableStore

end PromptTrainer
