import PromptTrainer.Optimizer.Pass
/-!
# Calls on one key, interleaved under its lock

The store's writes and the optimizer's work on a stored variable each take the key's lock
first.  This module models any number of such calls on one key made at once: taking the lock
and letting it go are steps of their own, and between them the call holding the lock runs its
body in the steps it can be interrupted between:

* an append, an attached reward, a set and an end of epoch change the variable in one step
  once they hold the lock;
* a pass reads the variable and runs on a copy in one step (the one that waits on the
  language model), and commits the copy in another.

A pass and an end of epoch wait under the lock, so they may be dropped there, before they
write; the store's writes do not wait once they hold it.  A call may also go without ever
taking the lock: dropped while it waits, refused before it asks (an invalid reward), or
finding the key missing.  The store's own locked keys are the holds taken outside these calls.
-/

namespace PromptTrainer

/-- A call that changes the stored variable in one step once it holds the key's lock. -/
inductive KeyWrite where
  /-- Records a prediction. -/
  | append (p : Prediction)
  /-- Sets the reward of a recorded prediction. -/
  | attachReward (index : Nat) (r : Float)
  /-- Merges a partial update. -/
  | set (update : VariableUpdate)
  /-- Ends the variable's epoch. -/
  | finalize

namespace KeyWrite

/-- Whether the call asks for the lock: an invalid reward is refused before. -/
def admitted : KeyWrite → Bool
  | .attachReward _ r => (VariableStore.rewardRefusal r).isNone
  | _ => true

/-- The call's step under the lock. -/
def held (key : String) : KeyWrite → Workbench → Workbench
  | .append p => Work.after (Work.change (fun s => s.appendPrediction key p))
  | .attachReward index r =>
    Work.after (Work.change (fun s => s.attachReward key index r))
  | .set u => Work.after (Work.change (fun s => s.set key u))
  | .finalize => Work.after (Optimizer.finalizeHeld key)

/-- The call made alone, from asking for the lock to its end. -/
def alone (key : String) : KeyWrite → Workbench → Workbench
  | .append p => Work.after (Work.locked key (fun s => s.appendPrediction key p))
  | .attachReward index r =>
    match VariableStore.rewardRefusal r with
    | some _ => id
    | none =>
      Work.after (Work.locked key (fun s => s.attachReward key index r))
  | .set u => Work.after (Work.locked key (fun s => s.set key u))
  | .finalize => Work.after (Optimizer.finalizeStored key)

end KeyWrite

/-- A call on a stored key that takes the key's lock. -/
inductive KeyCall where
  /-- A call that changes the variable in one step under the lock. -/
  | write (w : KeyWrite)
  /-- An optimization pass with a reward. -/
  | optimize (r : Float)

namespace KeyCall

/-- Whether the call asks for the lock. -/
def admitted : KeyCall → Bool
  | .write w => w.admitted
  | .optimize _ => true

/-- Whether the call waits while it holds the lock, and so may be dropped there. -/
def suspends : KeyCall → Bool
  | .write .finalize | .optimize _ => true
  | .write _ => false

/-- The call made alone, from asking for the lock to its end. -/
def alone (key : String) : KeyCall → Workbench → Workbench
  | .write w => w.alone key
  | .optimize r => Work.after (Optimizer.optimizeStored key r)

end KeyCall

/-- How far the call holding the key's lock has come. -/
inductive Progress where
  /-- It has just taken the lock. -/
  | taken
  /-- A pass read `before` and ran on a copy, ending in `result`; it has not committed. -/
  | passed (before : Variable) (result : Optimizer.PassResult)
  /-- It has made its writes and lets the lock go next. -/
  | written

/-- The call holding the key's lock, and how far it has come. -/
structure Holder where
  call : KeyCall
  progress : Progress

/-- A call that took the key's lock and let it go, as it ended. -/
inductive Episode where
  /-- It ran to its end. -/
  | completed (call : KeyCall)
  /-- It was dropped as soon as it held the lock. -/
  | droppedAtOnce (call : KeyCall)
  /-- A pass dropped after it ran on its copy, before its commit. -/
  | droppedAfterPass (r : Float)

namespace Episode

/-- The call of an episode. -/
def call : Episode → KeyCall
  | .completed call | .droppedAtOnce call => call
  | .droppedAfterPass r => .optimize r

/-- What the episode does when the calls run one after another: a call that ran to its end
is the call made alone, a call dropped at once does nothing, and a pass dropped before its
commit leaves what its run on the copy did to the language models. -/
def run (key : String) : Episode → Workbench → Workbench
  | .completed call => call.alone key
  | .droppedAtOnce _ => id
  | .droppedAfterPass r => Work.after (Optimizer.passStored key r)

/-- The episodes run one after another. -/
def replay (key : String) (episodes : List Episode) (s : Workbench) : Workbench :=
  episodes.foldl (fun b e => e.run key b) s

end Episode

/-- The calls on one key at a point of their interleaving. -/
structure KeyRun where
  /-- The workbench the calls share. -/
  bench : Workbench
  /-- The calls that have not taken the lock. -/
  waiting : List KeyCall
  /-- The call holding the lock, if one does. -/
  holder : Option Holder
  /-- The calls that took the lock and let it go, in the order they took it. -/
  episodes : List Episode

namespace KeyRun

/-- The calls made on a workbench, none of them started. -/
def start (s : Workbench) (calls : List KeyCall) : KeyRun := ⟨s, calls, none, []⟩

/-- One step of the calls on `key`. -/
inductive Step (key : String) : KeyRun → KeyRun → Prop where
  /-- A waiting call goes without the lock. -/
  | leave {c : KeyRun} {front back : List KeyCall} {call : KeyCall}
      (waits : c.waiting = front ++ call :: back) :
      Step key c { c with waiting := front ++ back }
  /-- A waiting call takes the lock, which neither another call nor an outside hold has. -/
  | acquire {c : KeyRun} {front back : List KeyCall} {call : KeyCall}
      (waits : c.waiting = front ++ call :: back)
      (admitted : call.admitted = true)
      (vacant : c.holder = none)
      (free : c.bench.store.lockState key = .free) :
      Step key c { c with waiting := front ++ back, holder := some ⟨call, .taken⟩ }
  /-- A one-step call makes its change. -/
  | write {c : KeyRun} {w : KeyWrite}
      (holds : c.holder = some ⟨.write w, .taken⟩) :
      Step key c { c with bench := w.held key c.bench, holder := some ⟨.write w, .written⟩ }
  /-- A pass reads the variable and runs on a copy. -/
  | pass {c : KeyRun} {r : Float} {before : Variable} {result : Optimizer.PassResult}
      {bench : Workbench}
      (holds : c.holder = some ⟨.optimize r, .taken⟩)
      (ran : Optimizer.passStored key r c.bench = .ok (before, result) bench) :
      Step key c { c with bench := bench, holder := some ⟨.optimize r, .passed before result⟩ }
  /-- A pass commits what it ran, or not. -/
  | commit {c : KeyRun} {r : Float} {before : Variable} {result : Optimizer.PassResult}
      (holds : c.holder = some ⟨.optimize r, .passed before result⟩) :
      Step key c { c with
        bench := Work.after (Optimizer.commitPass before result) c.bench
        holder := some ⟨.optimize r, .written⟩ }
  /-- The holder lets the lock go after its writes. -/
  | release {c : KeyRun} {call : KeyCall}
      (holds : c.holder = some ⟨call, .written⟩) :
      Step key c { c with holder := none, episodes := c.episodes ++ [.completed call] }
  /-- A call waiting under the lock is dropped before it ran. -/
  | dropTaken {c : KeyRun} {call : KeyCall}
      (holds : c.holder = some ⟨call, .taken⟩)
      (suspends : call.suspends = true) :
      Step key c { c with holder := none, episodes := c.episodes ++ [.droppedAtOnce call] }
  /-- A pass is dropped after it ran, before its commit. -/
  | dropPassed {c : KeyRun} {r : Float} {before : Variable} {result : Optimizer.PassResult}
      (holds : c.holder = some ⟨.optimize r, .passed before result⟩) :
      Step key c { c with holder := none, episodes := c.episodes ++ [.droppedAfterPass r] }

end KeyRun

end PromptTrainer
