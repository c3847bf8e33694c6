import PromptTrainer.Proofs.Store
import PromptTrainer.Store.Call
/-!
# The order of a store's keys

A store keeps its variables in one list, so its key order (`keys`) and its lookup (`get?`)
always name the same keys.  What calls must keep is that each key is listed once and that no
more variables are kept than the capacity, which is at least one.

Every call moves the key order in one way (`VariableStore.keys_perform`): the keys it inserts
are admitted one after another (`VariableStore.admitKey`).  A key already stored keeps its place;
a new key goes last, after the oldest key has left a store that is full.  Registering and
committing insert their key, a restore inserts the keys of the snapshot's variables in order,
and every other call, refused or not, inserts none.  Admitting keeps the keys distinct and
within the capacity, so every store reached from an empty one by calls is coherent
(`VariableStore.coherent_performAll`).

Main statement: `VariableStore.key_order_invariant`.
-/

namespace PromptTrainer

/-- The keys a call inserts into a store, in order: the registered or committed key, or the keys
of the variables a snapshot holds. -/
def StoreCall.inserted : StoreCall → List String
  | .register key _ => [key]
  | .replace v => [v.key]
  | .restore document =>
    match document.get? "variables" with
    | some listed =>
      match Decode.list Decode.trainable listed with
      | .ok restored => restored.map Variable.key
      | .error _ => []
    | none => []
  | _ => []

@[simp] theorem Variable.touch_key (v : Variable) (now : Timestamp) : (v.touch now).key = v.key :=
  rfl

namespace VariableStore

/-- The key order after a key is inserted into a store of a capacity: a stored key keeps the
order; a new key goes last, after the oldest key has left a full store. -/
def admitKey (capacity : Nat) (keys : List String) (key : String) : List String :=
  if key ∈ keys then keys else (if capacity ≤ keys.length then keys.drop 1 else keys) ++ [key]

/-- The keys are distinct and no more than the capacity, which is at least one. -/
structure Coherent (s : VariableStore) : Prop where
  positive : 0 < s.capacity
  distinct : s.keys.Nodup
  bounded : s.entries.length ≤ s.capacity

theorem length_keys (s : VariableStore) : s.keys.length = s.entries.length := by
  simp [keys]

theorem not_mem_keys_of_get? {s : VariableStore} {key : String} (absent : s.get? key = none) :
    key ∉ s.keys := fun member => by
  obtain ⟨v, found⟩ := get?_of_mem_keys member
  rw [absent] at found
  cases found

/-- The key order and the lookup name the same keys. -/
theorem mem_keys_iff (s : VariableStore) (key : String) :
    key ∈ s.keys ↔ ∃ v, s.get? key = some v :=
  ⟨get?_of_mem_keys, fun ⟨_, found⟩ => mem_keys_of_get? found⟩

/-! ### Admitting keys -/

theorem admitKey_nodup {capacity : Nat} {keys : List String} (distinct : keys.Nodup) (key : String) :
    (admitKey capacity keys key).Nodup := by
  unfold admitKey
  split
  · exact distinct
  · rename_i fresh
    -- the kept keys are a part of the old ones, so the new key is not among them
    have kept : (if capacity ≤ keys.length then keys.drop 1 else keys).Sublist keys := by
      split
      · exact List.drop_sublist 1 keys
      · exact List.Sublist.refl keys
    rw [List.nodup_append]
    refine ⟨kept.nodup distinct, by simp, fun a member b new same => fresh ?_⟩
    rw [List.mem_singleton] at new
    rw [← new, ← same]
    exact kept.subset member

theorem length_admitKey_le {capacity : Nat} {keys : List String} (positive : 0 < capacity)
    (bounded : keys.length ≤ capacity) (key : String) :
    (admitKey capacity keys key).length ≤ capacity := by
  unfold admitKey
  split
  · exact bounded
  · split <;> simp <;> omega

theorem foldl_admitKey_nodup {capacity : Nat} (inserted : List String) :
    ∀ {keys : List String}, keys.Nodup → (inserted.foldl (admitKey capacity) keys).Nodup := by
  induction inserted with
  | nil => exact id
  | cons key rest ih => exact fun distinct => ih (admitKey_nodup distinct key)

theorem length_foldl_admitKey_le {capacity : Nat} (positive : 0 < capacity) (inserted : List String) :
    ∀ {keys : List String}, keys.length ≤ capacity →
      (inserted.foldl (admitKey capacity) keys).length ≤ capacity := by
  induction inserted with
  | nil => exact id
  | cons key rest ih => exact fun bounded => ih (length_admitKey_le positive bounded key)

/-! ### Insertions -/

theorem capacity_insert (s : VariableStore) (mode : InsertMode) (v : Variable) :
    (s.insert mode v).1.capacity = s.capacity := by
  unfold insert
  split
  · cases mode <;> rfl
  · rfl

/-- An insertion, in every mode, admits the variable's key. -/
theorem keys_insert (s : VariableStore) (mode : InsertMode) (v : Variable) :
    (s.insert mode v).1.keys = admitKey s.capacity s.keys v.key := by
  unfold insert
  cases stored : s.get? v.key with
  | some existing =>
    rw [admitKey, if_pos (mem_keys_of_get? stored)]
    cases mode <;> simp [keys, keys_overwrite]
  | none =>
    rw [admitKey, if_neg (not_mem_keys_of_get? stored), length_keys]
    dsimp only
    split <;> simp [keys, apply_ite Variable.key]

/-- A restore admits the keys of the restored variables in order. -/
theorem foldl_insert_restore (restored : List Variable) :
    ∀ (s : VariableStore),
      (restored.foldl (fun acc v => (acc.insert .restore v).1) s).keys =
          (restored.map Variable.key).foldl (admitKey s.capacity) s.keys ∧
        (restored.foldl (fun acc v => (acc.insert .restore v).1) s).capacity = s.capacity := by
  induction restored with
  | nil => intro s; exact ⟨rfl, rfl⟩
  | cons v rest ih =>
    intro s
    obtain ⟨keysAfter, capacityAfter⟩ := ih (s.insert .restore v).1
    rw [capacity_insert, keys_insert] at keysAfter
    rw [capacity_insert] at capacityAfter
    exact ⟨keysAfter, capacityAfter⟩

/-- A change in place keeps the keys and the capacity, whatever it ends with. -/
theorem modify_keys {α : Type} (s : VariableStore) (key : String) (change : VariableChange α) :
    (s.modify key change).store.keys = s.keys ∧ (s.modify key change).store.capacity = s.capacity := by
  unfold modify
  split
  · exact ⟨rfl, rfl⟩
  · split <;> exact ⟨keys_overwrite _ _, rfl⟩

/-! ### Calls -/

/-- A restore that is refused leaves the store as it was, and inserts no key. -/
theorem restore_refused {s : VariableStore} {document : Json} {e : StoreError}
    (refused : s.restore document = .error e) :
    (StoreCall.restore document).inserted = [] := by
  simp only [restore] at refused
  simp only [StoreCall.inserted]
  cases listed : document.get? "variables" with
  | none => rfl
  | some values =>
    rw [listed] at refused
    dsimp only at refused ⊢
    cases decoded : Decode.list Decode.trainable values with
    | error message => rfl
    | ok restored => rw [decoded] at refused; cases refused

/-- A restore admits the keys of the snapshot's variables, or, refused, changes nothing. -/
theorem keys_perform_restore (s : VariableStore) (document : Json) :
    (s.perform (.restore document)).keys =
        (StoreCall.restore document).inserted.foldl (admitKey s.capacity) s.keys ∧
      (s.perform (.restore document)).capacity = s.capacity := by
  simp only [perform, call_restore, store_ended]
  cases ran : s.restore document with
  | error e =>
    rw [restore_refused ran]
    exact ⟨rfl, rfl⟩
  | ok result =>
    simp only [decided, StoreResult.store_ok]
    simp only [restore] at ran
    simp only [StoreCall.inserted]
    cases listed : document.get? "variables" with
    | none => rw [listed] at ran; cases ran
    | some values =>
      rw [listed] at ran
      dsimp only at ran ⊢
      cases decoded : Decode.list Decode.trainable values with
      | error message => rw [decoded] at ran; cases ran
      | ok restored =>
        rw [decoded] at ran
        cases ran
        exact foldl_insert_restore restored s

/-- Every call, whatever it ends with, admits the keys it inserts and keeps the capacity; a
refused call inserts none. -/
theorem keys_perform (s : VariableStore) (c : StoreCall) :
    (s.perform c).keys = c.inserted.foldl (admitKey s.capacity) s.keys ∧
      (s.perform c).capacity = s.capacity := by
  cases c with
  | register key initial => exact ⟨keys_insert s .ifAbsent _, capacity_insert s .ifAbsent _⟩
  | replace v => exact ⟨keys_insert s .commit v, capacity_insert s .commit v⟩
  | appendPrediction key p =>
    simpa [perform, appendPrediction, StoreCall.inserted] using modify_keys s key _
  | attachReward key index r =>
    simp only [perform, call_attachReward, StoreCall.inserted, List.foldl_nil]
    split
    · exact ⟨rfl, rfl⟩
    · exact modify_keys s key _
  | set key u =>
    simpa [perform, store_set, StoreCall.inserted] using modify_keys s key _
  | lock key =>
    simp only [perform, call_lock, StoreCall.inserted, List.foldl_nil]
    split <;> exact ⟨rfl, rfl⟩
  | unlock key => exact ⟨rfl, rfl⟩
  | restore document => exact keys_perform_restore s document

theorem capacity_performAll (calls : List StoreCall) :
    ∀ (s : VariableStore), (s.performAll calls).capacity = s.capacity := by
  induction calls with
  | nil => intro s; rfl
  | cons c rest ih =>
    intro s
    exact (ih (s.perform c)).trans (keys_perform s c).2

/-- An insertion keeps a store coherent. -/
theorem Coherent.insert {s : VariableStore} (coherent : s.Coherent) (mode : InsertMode) (v : Variable) :
    (s.insert mode v).1.Coherent := by
  refine ⟨capacity_insert s mode v ▸ coherent.positive, ?_, ?_⟩
  · rw [keys_insert]
    exact admitKey_nodup coherent.distinct v.key
  · rw [← length_keys, keys_insert, capacity_insert]
    exact length_admitKey_le coherent.positive (by rw [length_keys]; exact coherent.bounded) v.key

/-- A call keeps a store coherent. -/
theorem Coherent.perform {s : VariableStore} (coherent : s.Coherent) (c : StoreCall) :
    (s.perform c).Coherent := by
  obtain ⟨keysAfter, capacityAfter⟩ := keys_perform s c
  refine ⟨capacityAfter ▸ coherent.positive, ?_, ?_⟩
  · rw [keysAfter]
    exact foldl_admitKey_nodup _ coherent.distinct
  · rw [← length_keys, keysAfter, capacityAfter]
    exact length_foldl_admitKey_le coherent.positive _ (by rw [length_keys]; exact coherent.bounded)

/-- Calls made one after another keep a store coherent. -/
theorem coherent_performAll (calls : List StoreCall) :
    ∀ {s : VariableStore}, s.Coherent → (s.performAll calls).Coherent := by
  induction calls with
  | nil => exact id
  | cons c rest ih => exact fun coherent => ih (coherent.perform c)

theorem empty_coherent (n : Nat) (clock : Timestamp) : (empty n clock).Coherent :=
  ⟨show 0 < max n 1 by omega, List.nodup_nil, Nat.zero_le _⟩

/-- Every store reached from an empty store of capacity `max n 1` by calls keeps that capacity,
lists each of its keys once, keeps at most that many variables, and looks up exactly the keys
it lists.  The next call, whatever it is, admits the keys it inserts: a stored key keeps its
place, and a new key goes last, after the oldest key has left a full store. -/
theorem key_order_invariant
    {n : Nat}
    {clock : Timestamp}
    {calls : List StoreCall}
    {s : VariableStore}
    (reached : (empty n clock).performAll calls = s) :
    s.capacity = max n 1 ∧ s.keys.Nodup ∧ s.entries.length ≤ max n 1 ∧
      (∀ key, key ∈ s.keys ↔ ∃ v, s.get? key = some v) ∧
      ∀ c : StoreCall, (s.perform c).keys = c.inserted.foldl (admitKey (max n 1)) s.keys := by
  have capacity : s.capacity = max n 1 := reached ▸ capacity_performAll calls (empty n clock)
  have coherent : s.Coherent := reached ▸ coherent_performAll calls (empty_coherent n clock)
  refine ⟨capacity, coherent.distinct, capacity ▸ coherent.bounded, mem_keys_iff s, fun c => ?_⟩
  rw [← capacity]
  exact (keys_perform s c).1

/-- A store of capacity one that registers `a` and then `b` keeps only `b`. -/
theorem key_order_invariant_evicts :
    ((empty 1 Timestamp.epoch).performAll [.register "a" none, .register "b" none]).keys = ["b"] ∧
      (((empty 1 Timestamp.epoch).performAll [.register "a" none, .register "b" none]).capacity =
          max 1 1 ∧
        ((empty 1 Timestamp.epoch).performAll [.register "a" none, .register "b" none]).keys.Nodup ∧
        ((empty 1 Timestamp.epoch).performAll
          [.register "a" none, .register "b" none]).entries.length ≤ max 1 1 ∧
        (∀ key, key ∈ ((empty 1 Timestamp.epoch).performAll
            [.register "a" none, .register "b" none]).keys ↔
          ∃ v, ((empty 1 Timestamp.epoch).performAll
            [.register "a" none, .register "b" none]).get? key = some v) ∧
        ∀ c : StoreCall, (((empty 1 Timestamp.epoch).performAll
            [.register "a" none, .register "b" none]).perform c).keys =
          c.inserted.foldl (admitKey (max 1 1)) ((empty 1 Timestamp.epoch).performAll
            [.register "a" none, .register "b" none]).keys) :=
  ⟨by decide, key_order_invariant rfl⟩

end VariableStore

end PromptTrainer
