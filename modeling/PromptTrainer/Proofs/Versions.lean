import PromptTrainer.Proofs.KeyOrder
/-!
# Versions count committed writes, modulo 2^64

A variable's version is a 64-bit counter that every committed write of its key moves one on:
an append, an attached reward, a set and a commit of a stored key.  A registration stores a new
key at version 1, a refused call changes nothing, and a restore stores each variable of the
snapshot as it is, version included, the last one of a key winning.

The counter wraps: one write after version `2^64 - 1` gives version 0.  So between two
restores, on a key that stays stored, the version is the number of committed writes added to
the version before, modulo 2^64 (`VariableStore.version_performAll`); it grows by exactly one
with each write only while it stays below `2^64 - 1`.  A commit of a new key or a restore can
store version `2^64 - 1` (`VariableStore.append_after_largest_version_wraps`).

Main statement: `VariableStore.versions_count_commits_modulo`.
-/

namespace PromptTrainer

/-- Whether a call writes the variable under a key when it runs: an append, an attached reward,
a set or a commit of that key. -/
def StoreCall.writesTo (k : String) : StoreCall → Bool
  | .appendPrediction key _ | .attachReward key _ _ | .set key _ => key == k
  | .replace v => v.key == k
  | _ => false

/-- Whether a call is a restore. -/
def StoreCall.isRestore : StoreCall → Bool
  | .restore _ => true
  | _ => false

namespace VariableStore

/-! ### Reading a store with distinct keys -/

/-- In a store with distinct keys, a stored variable is found under its key. -/
theorem get?_of_mem {s : VariableStore} (distinct : s.keys.Nodup) {v : Variable}
    (member : v ∈ s.entries) : s.get? v.key = some v := by
  obtain ⟨capacity, entries, locked, clock⟩ := s
  unfold get?
  induction entries with
  | nil => simp at member
  | cons e rest ih =>
    simp only [keys, List.map_cons, List.nodup_cons] at distinct
    rcases List.mem_cons.mp member with rfl | later
    · simp
    · have other : e.key ≠ v.key := fun same => distinct.1 (same ▸ List.mem_map_of_mem later)
      simp [other, ih distinct.2 later]

/-- Inserting a variable leaves every other key that is still stored as it was. -/
theorem get?_insert_of_ne {s : VariableStore} (distinct : s.keys.Nodup) {mode : InsertMode}
    {v w : Variable} {k : String} (other : k ≠ v.key) (found : (s.insert mode v).1.get? k = some w) :
    s.get? k = some w := by
  unfold insert at found
  cases stored : s.get? v.key with
  | some existing =>
    rw [stored] at found
    cases mode with
    | ifAbsent => exact found
    | commit =>
      dsimp only at found
      rwa [get?_overwrite_of_ne s (Variable.touch { v with version := existing.version } s.clock)
        other] at found
    | restore =>
      dsimp only at found
      rwa [get?_overwrite_of_ne s _ other] at found
  | none =>
    rw [stored] at found
    dsimp only at found
    -- the new entry carries another key, so the key is found among the kept entries
    have kept : (if s.entries.length ≥ s.capacity then s.entries.drop 1 else s.entries).find?
        (fun e => e.key == k) = some w := by
      simp only [get?, List.find?_append] at found
      cases inKept : (if s.entries.length ≥ s.capacity then s.entries.drop 1 else s.entries).find?
          (fun e => e.key == k) with
      | some e => rw [inKept] at found; exact found
      | none =>
        rw [inKept] at found
        split at found <;> simp [Ne.symm other] at found
    have member : w ∈ s.entries := by
      have := List.mem_of_find?_eq_some kept
      split at this
      · exact List.mem_of_mem_drop this
      · exact this
    have named : w.key = k := by simpa using List.find?_some kept
    rw [← named]
    exact get?_of_mem distinct member

/-- The ending of an operation, its value dropped, is a failure only when the operation failed. -/
theorem ended_eq_error {α : Type} {r : StoreResult α} {e : StoreError} {s' : VariableStore}
    (refused : ended r = .error e s') : r = .error e s' := by
  cases r with
  | ok a st => cases refused
  | error e' st =>
    cases refused
    rfl

/-! ### One call -/

/-- In a store of distinct keys, a call that fails leaves the store as it was: every write checks
what can fail before it changes the variable. -/
theorem call_error_unchanged {s s' : VariableStore} (distinct : s.keys.Nodup) {c : StoreCall}
    {e : StoreError} (refused : s.call c = .error e s') : s' = s := by
  cases c with
  | register key initial => cases refused
  | replace v => cases refused
  | unlock key => cases refused
  | appendPrediction key p => exact appendPrediction_error distinct (ended_eq_error refused)
  | attachReward key index r =>
    rw [call_attachReward] at refused
    split at refused
    · cases refused
      rfl
    · exact attachReward_error distinct refused
  | set key u => exact set_error (ended_eq_error refused)
  | lock key =>
    rw [call_lock] at refused
    split at refused
    · cases refused
    · cases refused
      rfl
  | restore document => exact decided_error (ended_eq_error refused)

/-- A call that is not a restore and does not write a key leaves its variable, if it is still
stored: a registration or commit of another key can only evict it. -/
theorem get?_perform_of_not_writes {s : VariableStore} (distinct : s.keys.Nodup) {c : StoreCall}
    (notRestore : c.isRestore = false) {k : String} (quiet : c.writesTo k = false) {v w : Variable}
    (stored : s.get? k = some v) (after : (s.perform c).get? k = some w) : w = v := by
  have framed : (s.perform c).get? k = s.get? k → w = v := fun frame => by
    rw [frame, stored] at after
    exact (Option.some.inj after).symm
  cases c with
  | register key initial =>
    change (s.register key initial).1.get? k = some w at after
    by_cases same : k = key
    · subst same
      have kept : (s.register k initial).1 = s := by simp [register, insert, Variable.ofKey, stored]
      rw [kept, stored] at after
      exact (Option.some.inj after).symm
    · rw [get?_insert_of_ne distinct same after] at stored
      exact Option.some.inj stored
  | replace u =>
    have other : k ≠ u.key := fun same => by simp [StoreCall.writesTo, same] at quiet
    change (s.insert .commit u).1.get? k = some w at after
    rw [get?_insert_of_ne distinct other after] at stored
    exact Option.some.inj stored
  | appendPrediction key p =>
    have other : k ≠ key := fun same => by simp [StoreCall.writesTo, same] at quiet
    exact framed (by simpa [perform] using get?_appendPrediction_of_ne p other)
  | attachReward key index r =>
    have other : k ≠ key := fun same => by simp [StoreCall.writesTo, same] at quiet
    refine framed ?_
    simp only [perform, call_attachReward]
    split
    · rfl
    · exact get?_attachReward_of_ne index r other
  | set key u =>
    have other : k ≠ key := fun same => by simp [StoreCall.writesTo, same] at quiet
    exact framed (by simpa [perform] using get?_set_of_ne u other)
  | lock key =>
    refine framed ?_
    simp only [perform, call_lock]
    split <;> rfl
  | unlock key => exact framed rfl
  | restore document => cases notRestore

/-- A write of a stored key that runs puts its variable one version on. -/
theorem version_of_writes {s : VariableStore} {c : StoreCall} {k : String}
    (writes : c.writesTo k = true) {v : Variable} (stored : s.get? k = some v) {s' : VariableStore}
    (ran : s.call c = .ok () s') : ∃ w, s'.get? k = some w ∧ w.version = v.version + 1 := by
  have named := key_of_get? stored
  cases c with
  | appendPrediction key p =>
    obtain rfl : key = k := by simpa [StoreCall.writesTo] using writes
    rw [call_appendPrediction, appendPrediction_of_stored stored p, ended_ok] at ran
    cases ran
    exact ⟨_, get?_touch_self stored named, rfl⟩
  | attachReward key index r =>
    obtain rfl : key = k := by simpa [StoreCall.writesTo] using writes
    rw [call_attachReward] at ran
    split at ran
    · cases ran
    · by_cases recorded : index < v.predictions.length
      · rw [attachReward_of_recorded stored recorded r] at ran
        cases ran
        exact ⟨_, get?_touch_self stored named, rfl⟩
      · rw [attachReward_of_unrecorded stored recorded r] at ran
        cases ran
  | set key u =>
    obtain rfl : key = k := by simpa [StoreCall.writesTo] using writes
    rw [call_set, set_of_stored stored u, ended_ok] at ran
    cases ran
    exact ⟨_, get?_touch_self stored named, rfl⟩
  | replace u =>
    obtain rfl : u.key = k := by simpa [StoreCall.writesTo] using writes
    cases ran
    exact ⟨_, get?_replace_self stored, rfl⟩
  | register key initial => cases writes
  | lock key => cases writes
  | unlock key => cases writes
  | restore document => cases writes

/-- A call that is not a restore moves a key that stays stored one version on when it is a write
of that key that runs, and leaves it otherwise. -/
theorem version_perform {s : VariableStore} (distinct : s.keys.Nodup) {c : StoreCall}
    (notRestore : c.isRestore = false) {k : String} {v w : Variable}
    (stored : s.get? k = some v) (after : (s.perform c).get? k = some w) :
    w.version = v.version + (if c.writesTo k && (s.call c).isOk then 1 else 0) := by
  cases writes : c.writesTo k with
  | false =>
    rw [get?_perform_of_not_writes distinct notRestore writes stored after]
    simp
  | true =>
    cases ran : s.call c with
    | ok u s' =>
      obtain ⟨w', found, version⟩ := version_of_writes writes stored ran
      rw [perform, ran, StoreResult.store_ok, found] at after
      cases after
      simp [version]
    | error e s' =>
      rw [perform, ran, StoreResult.store_error, call_error_unchanged distinct ran, stored] at after
      cases after
      simp

/-! ### Runs between restores -/

/-- The number of calls of a run that write the variable under a key and run. -/
def commitsTo (k : String) : VariableStore → List StoreCall → Nat
  | _, [] => 0
  | s, c :: rest =>
    (if c.writesTo k && (s.call c).isOk then 1 else 0) + commitsTo k (s.perform c) rest

/-- Between restores, a key that stays stored counts the writes of it that ran, modulo 2^64. -/
theorem version_performAll {k : String} (calls : List StoreCall) :
    ∀ {s : VariableStore} {v : Variable}, s.Coherent → (∀ c ∈ calls, c.isRestore = false) →
      s.get? k = some v →
      (∀ i ≤ calls.length, ∃ w, (s.performAll (calls.take i)).get? k = some w) →
      ∃ w, (s.performAll calls).get? k = some w ∧
        w.version.toNat = (v.version.toNat + commitsTo k s calls) % UInt64.size := by
  induction calls with
  | nil =>
    intro s v _ _ stored _
    exact ⟨v, stored, by simp [commitsTo, UInt64.toNat_lt_size, Nat.mod_eq_of_lt]⟩
  | cons c rest ih =>
    intro s v coherent noRestore stored keeps
    -- the first call keeps the key, one version on if it wrote it
    obtain ⟨w₁, stored₁⟩ := keeps 1 (by simp)
    have step := version_perform coherent.distinct (noRestore c List.mem_cons_self) stored stored₁
    have keepsRest : ∀ i ≤ rest.length, ∃ w, ((s.perform c).performAll (rest.take i)).get? k = some w :=
      fun i bound => keeps (i + 1) (by simp; omega)
    obtain ⟨w, found, version⟩ := ih (coherent.perform c)
      (fun d member => noRestore d (List.mem_cons_of_mem c member)) stored₁ keepsRest
    refine ⟨w, found, ?_⟩
    rw [version, step, UInt64.toNat_add, commitsTo]
    split
    · simp [UInt64.size]
      omega
    · simp [UInt64.size]

/-! ### Registration and restore -/

/-- A new key inserted in any mode is found with the variable as the mode stores it. -/
theorem get?_insert_new {s : VariableStore} {mode : InsertMode} {v : Variable}
    (absent : s.get? v.key = none) :
    (s.insert mode v).1.get? v.key = some (if mode == .restore then v else v.touch s.clock) := by
  have noEntry : s.entries.find? (fun e => e.key == v.key) = none := absent
  have keptNone : (if s.entries.length ≥ s.capacity then s.entries.drop 1 else s.entries).find?
      (fun e => e.key == v.key) = none := by
    rw [List.find?_eq_none] at noEntry ⊢
    intro e member
    split at member
    · exact noEntry e (List.mem_of_mem_drop member)
    · exact noEntry e member
  have sameKey : (if mode == .restore then v else v.touch s.clock).key = v.key := by split <;> rfl
  unfold insert
  rw [absent]
  dsimp only
  unfold get?
  rw [List.find?_append, keptNone, Option.none_or]
  simp [sameKey]

/-- A registered new key starts at version 1. -/
theorem version_register_new {s : VariableStore} {k : String} (initial : Option Instructions)
    (absent : s.get? k = none) :
    ∃ w, (s.register k initial).1.get? k = some w ∧ w.version = 1 :=
  ⟨_, @get?_insert_new s .ifAbsent { Variable.ofKey k s.clock with instructions := initial } absent,
    rfl⟩

/-- A restored variable is stored as it is. -/
theorem get?_insert_restore_self (s : VariableStore) (v : Variable) :
    (s.insert .restore v).1.get? v.key = some v := by
  cases stored : s.get? v.key with
  | none =>
    have found := @get?_insert_new s .restore v stored
    rwa [if_pos (by decide)] at found
  | some existing =>
    simp only [insert, stored]
    exact get?_overwrite_self s v stored

/-- After restoring variables one after another, a key holds the last of them with its key, or,
if none has it, what it held before. -/
theorem get?_foldl_insert_restore (restored : List Variable) :
    ∀ {t : VariableStore}, t.Coherent → ∀ {k : String} {w : Variable},
      (restored.foldl (fun acc v => (acc.insert .restore v).1) t).get? k = some w →
      restored.reverse.find? (fun v => v.key == k) = some w ∨
        (k ∉ restored.map Variable.key ∧ t.get? k = some w) := by
  induction restored with
  | nil => intro t _ k w found; exact .inr ⟨by simp, found⟩
  | cons v rest ih =>
    intro t coherent k w found
    rcases ih (coherent.insert .restore v) found with last | ⟨notLater, before⟩
    · left
      simp [List.find?_append, last]
    · by_cases same : v.key = k
      · subst same
        rw [get?_insert_restore_self] at before
        cases before
        left
        have : rest.reverse.find? (fun u => u.key == v.key) = none := by
          rw [List.find?_eq_none]
          intro u member named
          exact notLater (by simpa using ⟨u, List.mem_reverse.mp member, by simpa using named⟩)
        simp [List.find?_append, this]
      · right
        exact ⟨by simp [Ne.symm same, notLater], get?_insert_of_ne coherent.distinct (Ne.symm same) before⟩

/-! ### Every reachable store -/

/-- In every store reached from an empty one: a write of a stored key that runs puts its version
one on modulo 2^64; a registration stores a new key at version 1; a refused call changes
nothing; a restore stores, under each key, the last variable of the snapshot with that key, as
decoded, and leaves the keys the snapshot lacks as they were.  So between two restores, a key that
stays stored adds the number of writes of it that ran to its version, modulo 2^64. -/
theorem versions_count_commits_modulo
    {n : Nat}
    {clock : Timestamp}
    {calls : List StoreCall}
    {s : VariableStore}
    (reached : (empty n clock).performAll calls = s) :
    (∀ c k v s', c.writesTo k = true → s.get? k = some v → s.call c = .ok () s' →
      ∃ w, s'.get? k = some w ∧ w.version.toNat = (v.version.toNat + 1) % UInt64.size) ∧
    (∀ k initial, s.get? k = none →
      ∃ w, (s.perform (.register k initial)).get? k = some w ∧ w.version = 1) ∧
    (∀ c e s', s.call c = .error e s' → s' = s) ∧
    (∀ document listed restored, document.get? "variables" = some listed →
      Decode.list Decode.trainable listed = .ok restored →
      ∀ k w, (s.perform (.restore document)).get? k = some w →
        restored.reverse.find? (fun v => v.key == k) = some w ∨
          (k ∉ restored.map Variable.key ∧ s.get? k = some w)) ∧
    ∀ later k v, (∀ c ∈ later, c.isRestore = false) → s.get? k = some v →
      (∀ i ≤ later.length, ∃ w, (s.performAll (later.take i)).get? k = some w) →
      ∃ w, (s.performAll later).get? k = some w ∧
        w.version.toNat = (v.version.toNat + commitsTo k s later) % UInt64.size := by
  have coherent : s.Coherent := reached ▸ coherent_performAll calls (empty_coherent n clock)
  refine ⟨fun c k v s' writes stored ran => ?_, fun k initial absent => version_register_new initial absent,
    fun c e s' refused => call_error_unchanged coherent.distinct refused,
    fun document listed restored present decoded k w found => ?_,
    fun later k v quiet stored keeps => version_performAll later coherent quiet stored keeps⟩
  · obtain ⟨w, found, version⟩ := version_of_writes writes stored ran
    exact ⟨w, found, by rw [version, UInt64.toNat_add, UInt64.toNat_one]⟩
  · have ran : s.perform (.restore document) = restored.foldl (fun acc v => (acc.insert .restore v).1) s := by
      simp [perform, restore, present, decoded, decided]
    rw [ran] at found
    exact get?_foldl_insert_restore restored coherent found

/-- A store that registers one key. -/
theorem versions_count_commits_modulo_register :
    (∀ c k v s', c.writesTo k = true →
        ((empty 1 Timestamp.epoch).performAll [.register "a" none]).get? k = some v →
        ((empty 1 Timestamp.epoch).performAll [.register "a" none]).call c = .ok () s' →
        ∃ w, s'.get? k = some w ∧ w.version.toNat = (v.version.toNat + 1) % UInt64.size) ∧
      (∀ k initial, ((empty 1 Timestamp.epoch).performAll [.register "a" none]).get? k = none →
        ∃ w, (((empty 1 Timestamp.epoch).performAll [.register "a" none]).perform
            (.register k initial)).get? k = some w ∧
          w.version = 1) ∧
      (∀ c e s', ((empty 1 Timestamp.epoch).performAll [.register "a" none]).call c = .error e s' →
        s' = (empty 1 Timestamp.epoch).performAll [.register "a" none]) ∧
      (∀ document listed restored, document.get? "variables" = some listed →
        Decode.list Decode.trainable listed = .ok restored →
        ∀ k w, (((empty 1 Timestamp.epoch).performAll [.register "a" none]).perform
            (.restore document)).get? k = some w →
          restored.reverse.find? (fun v => v.key == k) = some w ∨
            (k ∉ restored.map Variable.key ∧
              ((empty 1 Timestamp.epoch).performAll [.register "a" none]).get? k = some w)) ∧
      ∀ later k v, (∀ c ∈ later, c.isRestore = false) →
        ((empty 1 Timestamp.epoch).performAll [.register "a" none]).get? k = some v →
        (∀ i ≤ later.length, ∃ w, (((empty 1 Timestamp.epoch).performAll
            [.register "a" none]).performAll (later.take i)).get? k = some w) →
        ∃ w, (((empty 1 Timestamp.epoch).performAll [.register "a" none]).performAll
            later).get? k = some w ∧
          w.version.toNat = (v.version.toNat + commitsTo k
            ((empty 1 Timestamp.epoch).performAll [.register "a" none]) later) % UInt64.size :=
  versions_count_commits_modulo rfl

/-- Committing a new key at version `2^64 - 2` stores it at `2^64 - 1`, and one append after
that gives version 0. -/
theorem append_after_largest_version_wraps :
    (((empty 1 Timestamp.epoch).performAll
        [.replace { Variable.ofKey "a" Timestamp.epoch with version := 18446744073709551614 }]).get? "a").map
        (fun v => v.version.toNat) = some 18446744073709551615 ∧
      (((empty 1 Timestamp.epoch).performAll
        [.replace { Variable.ofKey "a" Timestamp.epoch with version := 18446744073709551614 },
          .appendPrediction "a" { inputs := [], outputs := [] }]).get? "a").map
        (fun v => v.version.toNat) = some 0 := by
  decide

end VariableStore

end PromptTrainer
