import Mathlib.Logic.Function.Basic
import Transport.Lifecycle.Model

/-
  Transport.Lifecycle.Race — `ensure_open()` and `open()` called by any number of threads at
  once.

  Nothing in `open()` holds a lock.  Each caller's call is a sequence of atomic steps on the
  shared lifecycle state, one per read or write of a shared field:

      ensureTest   `ensure_open`: `if (is_closed) throw ...; if (!is_open) open();`
      mediumTest   the medium's `if (this->is_open) return; else if (this->is_closed) {...}`
      acquire      `sockfd = socket(...)`, or the serial port's test `if (tty_id < 0)`
      ttyOpen      the serial port's `tty_id = ::open(path, ...)`
      baseTest     `_transport_base::open`: `if (is_open) return;`
      setOpen      `is_open = true;` and the two `std::thread(...).detach()`
      bind         the datagram media's `bind` after `super::open()`

  Each caller's steps are those of `Lifecycle.mediumOpen` taken apart: run back to back they
  give it exactly (`solo_mediumOpen`, `solo_ensureOpen`).  Interleaved, two callers can both
  pass their tests before either sets `is_open`, and each then spawns a pair of workers and
  takes a handle of its own.  When no two callers are ever at once between the medium's test
  and the setting of `is_open`, the transport has exactly one pair of workers and one handle as
  soon as it is open.

  Main results:
    * `solo_caller_refines_sequential` — one caller alone is the sequential model.
    * `OpenInv.step` — in every interleaving, as many receive as send workers, and some as soon
      as `is_open` is set.
    * `ExclInv.step` — without overlapping opens, one pair and one handle.
    * `opens_spawn_one_pair_unless_they_overlap` — the two invariants, over every run.
    * `concurrent_opens_spawn_two_pairs` — two overlapping auto-opens spawn two pairs and take
      two handles, on every medium.
-/

namespace Transport

/-! ## §1. Callers. -/

/-- Where a caller is in `ensure_open()` and the `open()` it calls. -/
inductive OpenPc where
  | idle
  | ensureTest
  | mediumTest
  | acquire
  | ttyOpen
  | baseTest
  | setOpen
  | bind
  | done (raised : Option OpenError)
  deriving DecidableEq, Repr

/-- Between the medium's test of `is_open` and the setting of it. -/
def OpenPc.inWindow : OpenPc → Bool
  | .acquire | .ttyOpen | .baseTest | .setOpen => true
  | _ => false

/-- Holding a handle the caller took or found, before the setting of `is_open`. -/
def OpenPc.pending : OpenPc → Bool
  | .baseTest | .setOpen => true
  | _ => false

theorem OpenPc.inWindow_of_pending {pc : OpenPc} (h : pc.pending = true) : pc.inWindow = true := by
  cases pc <;> simp_all [pending, inWindow]

open Lifecycle in
/-- The next atomic step of a caller at `pc`, `ok` being the operating system's answer where
the step asks for one; `none` for a caller that is idle or done. -/
def callerStep (m : Medium) (ok : Bool) (s : Lifecycle) : OpenPc → Option (Lifecycle × OpenPc)
  | .ensureTest =>
    some (s, if s.isClosed then .done (some .transportClosed)
      else if s.isOpen then .done none else .mediumTest)
  | .mediumTest =>
    if s.isOpen then some (s, .done none)
    else some (if s.isClosed then s.rearm else s, .acquire)
  | .acquire =>
    match m with
    | .serialPort => some (s, if s.handleSet then .baseTest else .ttyOpen)
    | .datagram | .unixDatagram =>
      if ok then some ({ s with created := s.created + 1 }, .baseTest)
      else some (s, .done (some .socketFailed))
  | .ttyOpen =>
    if ok then some ({ s with handleSet := true, created := s.created + 1 }, .baseTest)
    else some (s, .done (some .openFailed))
  | .baseTest => some (s, if s.isOpen then .bind else .setOpen)
  | .setOpen => some (s.spawnWorkers, .bind)
  | .bind => some (s, .done (if m.binds && !ok then some .bindFailed else none))
  | .idle | .done _ => none

/-- The lifecycle state and every caller's position. -/
structure OpenWorld where
  life : Lifecycle
  calls : Nat → OpenPc

/-- A step of the interleaving: caller `c` calls `send`/`receive`/`request` (entering
`ensure_open()`) or `open()`, or takes its next atomic step. -/
inductive OpenStep where
  | call (c : Nat)
  | open (c : Nat)
  | advance (c : Nat) (ok : Bool)
  deriving DecidableEq, Repr

/-- The caller a step moves. -/
def OpenStep.caller : OpenStep → Nat
  | .call c | .open c | .advance c _ => c

namespace OpenWorld

/-- A transport never opened, no call started. -/
def init : OpenWorld := ⟨.init, fun _ => .idle⟩

/-- Caller `c` moves to `pc`, the lifecycle state to `s`. -/
def move (w : OpenWorld) (c : Nat) (s : Lifecycle) (pc : OpenPc) : OpenWorld :=
  ⟨s, Function.update w.calls c pc⟩

/-- One step of the interleaving; `none` when it is not enabled. -/
def step (m : Medium) (w : OpenWorld) : OpenStep → Option OpenWorld
  | .call c => if w.calls c = .idle then some (w.move c w.life .ensureTest) else none
  | .open c => if w.calls c = .idle then some (w.move c w.life .mediumTest) else none
  | .advance c ok => (callerStep m ok w.life (w.calls c)).map fun r => w.move c r.1 r.2

/-- The steps of a trace, in order. -/
def run (m : Medium) (w : OpenWorld) : List OpenStep → Option OpenWorld
  | [] => some w
  | a :: as => (w.step m a).bind (·.run m as)

/-- No two callers at once between the medium's test of `is_open` and its setting. -/
def Exclusive (w : OpenWorld) : Prop :=
  ∀ c d, (w.calls c).inWindow = true → (w.calls d).inWindow = true → c = d

end OpenWorld

/-- The worlds of every interleaving. -/
inductive OpenReachable (m : Medium) : OpenWorld → Prop
  | init : OpenReachable m .init
  | step {w w' : OpenWorld} (a : OpenStep) :
      OpenReachable m w → w.step m a = some w' → OpenReachable m w'

/-- The worlds of the interleavings in which opens never overlap. -/
inductive ExclReachable (m : Medium) : OpenWorld → Prop
  | init : ExclReachable m .init
  | step {w w' : OpenWorld} (a : OpenStep) :
      ExclReachable m w → w.step m a = some w' → w'.Exclusive → ExclReachable m w'

namespace OpenWorld

variable {m : Medium} {w w' : OpenWorld}

@[simp] theorem move_life (c : Nat) (s : Lifecycle) (pc : OpenPc) : (w.move c s pc).life = s :=
  rfl

@[simp] theorem move_calls_self (c : Nat) (s : Lifecycle) (pc : OpenPc) :
    (w.move c s pc).calls c = pc := by simp [move]

theorem move_calls_other {c d : Nat} (s : Lifecycle) (pc : OpenPc) (h : d ≠ c) :
    (w.move c s pc).calls d = w.calls d := by simp [move, h]

/-- **What a step can do.** A caller starts a call, or a caller's next atomic step moves it and
the lifecycle state; every other caller stays. -/
theorem step_cases {a : OpenStep} (h : w.step m a = some w') :
    (∃ c pc, w.calls c = .idle ∧ (pc = .ensureTest ∨ pc = .mediumTest) ∧
      w' = w.move c w.life pc) ∨
    (∃ c ok s pc, callerStep m ok w.life (w.calls c) = some (s, pc) ∧ w' = w.move c s pc) := by
  cases a with
  | call c =>
    simp only [step] at h
    split at h
    · exact .inl ⟨c, _, ‹_›, .inl rfl, (Option.some.inj h).symm⟩
    · cases h
  | «open» c =>
    simp only [step] at h
    split at h
    · exact .inl ⟨c, _, ‹_›, .inr rfl, (Option.some.inj h).symm⟩
    · cases h
  | advance c ok =>
    simp only [step, Option.map_eq_some'] at h
    obtain ⟨⟨s, pc⟩, hs, rfl⟩ := h
    exact .inr ⟨c, ok, s, pc, hs, rfl⟩

theorem reachable_run {as : List OpenStep} (hw : OpenReachable m w) (h : w.run m as = some w') :
    OpenReachable m w' := by
  induction as generalizing w with
  | nil => cases h; exact hw
  | cons a as ih =>
    simp only [run, Option.bind_eq_some] at h
    obtain ⟨w₁, h₁, h⟩ := h
    exact ih (.step a hw h₁) h

/-- A trace from the start that ends in a world where `f` is `v`. -/
theorem reachable_of_run {β : Type} (m : Medium) (as : List OpenStep) (f : OpenWorld → β)
    (v : β) (h : (init.run m as).map f = some v) : ∃ w, OpenReachable m w ∧ f w = v := by
  cases hr : init.run m as with
  | none => simp [hr] at h
  | some w => exact ⟨w, reachable_run .init hr, by simpa [hr] using h⟩

/-- A step leaves every caller but the one it moves where it was. -/
theorem step_calls_other {a : OpenStep} (h : w.step m a = some w') {d : Nat}
    (hd : d ≠ a.caller) : w'.calls d = w.calls d := by
  cases a <;> simp only [step, OpenStep.caller, Option.map_eq_some'] at h hd
  case advance =>
    obtain ⟨_, _, rfl⟩ := h
    exact move_calls_other _ _ hd
  all_goals
    split at h <;> cases h
    exact move_calls_other _ _ hd

/-- A world in which no caller but `c` has started a call has no overlapping opens. -/
theorem exclusive_of_lone {c : Nat} (h : ∀ d, d ≠ c → w.calls d = .idle) : w.Exclusive := by
  have hc : ∀ d, (w.calls d).inWindow = true → d = c := fun d hd =>
    by_contra fun hne => by simp [h d hne, OpenPc.inWindow] at hd
  exact fun d e hd he => (hc d hd).trans (hc e he).symm

end OpenWorld

namespace ExclReachable

open OpenWorld

variable {m : Medium} {w w' : OpenWorld}

theorem openReachable (h : ExclReachable m w) : OpenReachable m w := by
  induction h with
  | init => exact .init
  | step a _ hs _ ih => exact .step a ih hs

/-- A trace of caller `c` alone, from a world where nobody else has started a call, never
overlaps two opens. -/
theorem run_lone {as : List OpenStep} {c : Nat} (hw : ExclReachable m w)
    (hl : ∀ d, d ≠ c → w.calls d = .idle) (has : ∀ a ∈ as, a.caller = c)
    (h : w.run m as = some w') : ExclReachable m w' := by
  induction as generalizing w with
  | nil => cases h; exact hw
  | cons a as ih =>
    simp only [run, Option.bind_eq_some] at h
    obtain ⟨w₁, h₁, h⟩ := h
    have hl₁ : ∀ d, d ≠ c → w₁.calls d = .idle := fun d hd =>
      (step_calls_other h₁ (has a (List.mem_cons_self a as) ▸ hd)).trans (hl d hd)
    exact ih (.step a hw h₁ (exclusive_of_lone hl₁)) hl₁
      (fun b hb => has b (List.mem_cons_of_mem a hb)) h

/-- A trace of one caller from the start that ends in a world where `f` is `v`. -/
theorem of_lone_run {β : Type} (m : Medium) (as : List OpenStep) (c : Nat)
    (f : OpenWorld → β) (v : β) (has : ∀ a ∈ as, a.caller = c)
    (h : (OpenWorld.init.run m as).map f = some v) : ∃ w, ExclReachable m w ∧ f w = v := by
  cases hr : OpenWorld.init.run m as with
  | none => simp [hr] at h
  | some w => exact ⟨w, run_lone .init (fun _ _ => rfl) has hr, by simpa [hr] using h⟩

end ExclReachable

/-! ## §2. One caller alone is the sequential `open()`. -/

namespace OpenWorld

/-- Caller `c` runs alone for at most `n` steps, the operating system answering `os`. -/
def solo (m : Medium) (os : OsReply) (c : Nat) : Nat → OpenWorld → OpenWorld
  | 0, w => w
  | n + 1, w =>
    match callerStep m (if w.calls c = .bind then os.bind else os.acquire) w.life (w.calls c) with
    | some r => solo m os c n (w.move c r.1 r.2)
    | none => w

@[simp] theorem solo_zero (os : OsReply) (c : Nat) (w : OpenWorld) : solo m os c 0 w = w := rfl

theorem solo_move (os : OsReply) (c n : Nat) (calls : Nat → OpenPc) (s : Lifecycle)
    (pc : OpenPc) :
    solo m os c (n + 1) ⟨s, Function.update calls c pc⟩ =
      match callerStep m (if pc = .bind then os.bind else os.acquire) s pc with
      | some r => solo m os c n ⟨r.1, Function.update calls c r.2⟩
      | none => ⟨s, Function.update calls c pc⟩ := by
  simp only [solo, Function.update_same, move, Function.update_idem]

/-- From `acquire`, on a transport that is not open, a caller alone takes the handle, runs
`_transport_base::open` and binds. -/
theorem solo_acquire (os : OsReply) (c : Nat) (calls : Nat → OpenPc) (s : Lifecycle)
    (ho : s.isOpen = false) :
    solo m os c 5 ⟨s, Function.update calls c .acquire⟩ =
      match Lifecycle.acquireHandle m os.acquire s with
      | none => ⟨s, Function.update calls c (.done (some m.acquireError))⟩
      | some s₂ => ⟨Lifecycle.baseOpen s₂, Function.update calls c
          (.done (if m.binds && !os.bind then some .bindFailed else none))⟩ := by
  obtain ⟨isOpen, isClosed, sw, rw, hs, cr, rl⟩ := s
  obtain ⟨oa, ob⟩ := os
  subst ho
  cases m <;> cases oa <;> cases ob <;> (try cases hs) <;>
    simp [solo_move, callerStep, Lifecycle.acquireHandle, Lifecycle.baseOpen, Medium.binds,
      Medium.acquireError]

/-- **The medium's `open()` is its steps run back to back.** A caller that calls `open()` and
runs alone ends where `Lifecycle.mediumOpen` does, having raised what it raises. -/
theorem solo_mediumOpen (os : OsReply) (c : Nat) (calls : Nat → OpenPc) (s : Lifecycle) :
    solo m os c 6 ⟨s, Function.update calls c .mediumTest⟩ =
      ⟨(Lifecycle.mediumOpen m os s).1,
        Function.update calls c (.done (Lifecycle.mediumOpen m os s).2)⟩ := by
  rw [solo_move]
  cases ho : s.isOpen
  · have h₁ : (if s.isClosed then s.rearm else s).isOpen = false := by
      split <;> simp [Lifecycle.rearm, ho]
    simp only [callerStep, ho, Bool.false_eq_true, ↓reduceIte, reduceCtorEq,
      Function.update_idem, solo_acquire os c calls _ h₁, Lifecycle.mediumOpen]
    generalize Lifecycle.acquireHandle m os.acquire _ = r
    cases r <;> rfl
  · simp [callerStep, ho, Lifecycle.mediumOpen, solo_move]

/-- `ensure_open()` run alone is `Lifecycle.ensureOpen`. -/
theorem solo_ensureOpen (os : OsReply) (c : Nat) (calls : Nat → OpenPc) (s : Lifecycle) :
    solo m os c 7 ⟨s, Function.update calls c .ensureTest⟩ =
      ⟨(Lifecycle.ensureOpen m os s).1,
        Function.update calls c (.done (Lifecycle.ensureOpen m os s).2)⟩ := by
  obtain ⟨isOpen, isClosed, sw, rw, hs, cr, rl⟩ := s
  rw [solo_move]
  cases isClosed <;> cases isOpen <;>
    simp only [callerStep, Lifecycle.ensureOpen, reduceCtorEq, ↓reduceIte, Bool.false_eq_true,
      Bool.not_false, Bool.not_true, Function.update_idem, solo_mediumOpen]
  all_goals simp [solo_move, callerStep]

end OpenWorld

/-- **One caller alone is the sequential model.** A caller that calls `open()`, or enters
`ensure_open()`, and then runs alone ends where `Lifecycle.mediumOpen`, or
`Lifecycle.ensureOpen`, leaves the transport, having raised what it raises. -/
theorem solo_caller_refines_sequential (m : Medium) (os : OsReply) (c : Nat)
    (calls : Nat → OpenPc) (s : Lifecycle) :
    OpenWorld.solo m os c 6 ⟨s, Function.update calls c .mediumTest⟩ =
      ⟨(Lifecycle.mediumOpen m os s).1,
        Function.update calls c (.done (Lifecycle.mediumOpen m os s).2)⟩ ∧
    OpenWorld.solo m os c 7 ⟨s, Function.update calls c .ensureTest⟩ =
      ⟨(Lifecycle.ensureOpen m os s).1,
        Function.update calls c (.done (Lifecycle.ensureOpen m os s).2)⟩ :=
  ⟨OpenWorld.solo_mediumOpen os c calls s, OpenWorld.solo_ensureOpen os c calls s⟩

/-! ## §3. Every interleaving. -/

/-- What holds in every interleaving: the transport is never closed here, the workers come in
pairs and exist exactly when `is_open` is set, a set `tty_id` was opened by the transport, and
a caller past `super::open()`, or whose open returned without raising, saw `is_open` set. -/
structure OpenInv (w : OpenWorld) : Prop where
  closed : w.life.isClosed = false
  pairs : w.life.receiveWorkers = w.life.sendWorkers
  open_iff : w.life.isOpen = true ↔ 0 < w.life.sendWorkers
  handle : w.life.handleSet = true → 0 < w.life.created
  returned : ∀ c, w.calls c = .bind ∨ w.calls c = .done none → w.life.isOpen = true

namespace OpenInv

open OpenWorld

variable {m : Medium} {w w' : OpenWorld}

theorem init : OpenInv OpenWorld.init :=
  ⟨rfl, rfl, by decide, by decide, fun _ h => by simp [OpenWorld.init] at h⟩

/-- A step that moves caller `c` and keeps the lifecycle state. -/
theorem move_self (h : OpenInv w) {c : Nat} {pc : OpenPc}
    (hpc : pc = .bind ∨ pc = .done none → w.life.isOpen = true) :
    OpenInv (w.move c w.life pc) := by
  refine ⟨h.closed, h.pairs, h.open_iff, h.handle, fun d hd => ?_⟩
  by_cases hdc : d = c
  · subst hdc; exact hpc (by simpa using hd)
  · exact h.returned d (by rwa [move_calls_other _ _ hdc] at hd)

/-- A step that takes a handle and moves caller `c` to `baseTest`. -/
theorem move_handle (h : OpenInv w) {c : Nat} {s : Lifecycle} (hs : s = { w.life with
    handleSet := s.handleSet, created := w.life.created + 1 }) :
    OpenInv (w.move c s .baseTest) := by
  refine ⟨by rw [hs]; exact h.closed, by rw [hs]; exact h.pairs, by rw [hs]; exact h.open_iff,
    fun _ => by rw [hs]; exact Nat.succ_pos _, fun d hd => ?_⟩
  by_cases hdc : d = c
  · subst hdc; simp at hd
  · rw [hs]; exact h.returned d (by rwa [move_calls_other _ _ hdc] at hd)

/-- **One step.** Every step of every caller keeps the invariant. -/
theorem step (h : OpenInv w) {a : OpenStep} (hs : w.step m a = some w') : OpenInv w' := by
  rcases step_cases hs with ⟨c, pc, -, hpc, rfl⟩ | ⟨c, ok, s, pc, hc, rfl⟩
  · exact h.move_self (by rcases hpc with rfl | rfl <;> simp)
  have hcl := h.closed
  cases hpcw : w.calls c <;> simp only [callerStep, hpcw, reduceCtorEq] at hc
  case ensureTest =>
    obtain ⟨rfl, rfl⟩ := Prod.mk.inj (Option.some.inj hc)
    exact h.move_self (by split_ifs <;> simp_all)
  case mediumTest =>
    split at hc <;> obtain ⟨rfl, rfl⟩ := Prod.mk.inj (Option.some.inj hc)
    · exact h.move_self (fun _ => ‹_›)
    · simp only [hcl, Bool.false_eq_true, ↓reduceIte]
      exact h.move_self (by simp)
  case acquire =>
    cases m <;> simp only at hc <;> (try split at hc) <;>
      obtain ⟨rfl, rfl⟩ := Prod.mk.inj (Option.some.inj hc)
    all_goals first | exact h.move_handle rfl | exact h.move_self (by simp)
  case ttyOpen =>
    split at hc <;> obtain ⟨rfl, rfl⟩ := Prod.mk.inj (Option.some.inj hc)
    · exact h.move_handle rfl
    · exact h.move_self (by simp)
  case baseTest =>
    obtain ⟨rfl, rfl⟩ := Prod.mk.inj (Option.some.inj hc)
    exact h.move_self (by split_ifs <;> simp_all)
  case setOpen =>
    obtain ⟨rfl, rfl⟩ := Prod.mk.inj (Option.some.inj hc)
    refine ⟨h.closed, by simp [h.pairs], by simp, h.handle, fun d _ => rfl⟩
  case bind =>
    obtain ⟨rfl, rfl⟩ := Prod.mk.inj (Option.some.inj hc)
    exact h.move_self (fun _ => h.returned c (.inl hpcw))

end OpenInv

theorem OpenReachable.openInv {m : Medium} {w : OpenWorld} (h : OpenReachable m w) :
    OpenInv w := by
  induction h with
  | init => exact .init
  | step _ _ hs ih => exact ih.step hs

/-! ## §4. Opens that do not overlap. -/

/-- Without overlapping opens: one pair of workers exactly when the transport is open, nobody
in the window once it is open, and one handle exactly when the transport is open or a caller
holds one on its way to `is_open = true`. -/
structure ExclInv (w : OpenWorld) : Prop where
  inv : OpenInv w
  exclusive : w.Exclusive
  workers : w.life.sendWorkers = if w.life.isOpen then 1 else 0
  window_shut : ∀ c, (w.calls c).inWindow = true → w.life.isOpen = false
  created_le : w.life.created ≤ 1
  created_pos : 0 < w.life.created ↔
    w.life.isOpen = true ∨ ∃ c, (w.calls c).pending = true

namespace ExclInv

open OpenWorld

variable {m : Medium} {w w' : OpenWorld}

theorem init : ExclInv OpenWorld.init :=
  ⟨.init, fun c d h => by simp [OpenWorld.init, OpenPc.inWindow] at h, rfl,
    fun c h => rfl, Nat.zero_le _, by simp [OpenWorld.init, Lifecycle.init, OpenPc.pending]⟩

/-- In the window, a caller is the only one that can hold a handle. -/
theorem pending_iff (h : ExclInv w) {c : Nat} (hc : (w.calls c).inWindow = true) :
    (∃ d, (w.calls d).pending = true) ↔ (w.calls c).pending = true :=
  ⟨fun ⟨d, hd⟩ => h.exclusive d c (OpenPc.inWindow_of_pending hd) hc ▸ hd, fun hc => ⟨c, hc⟩⟩

theorem exists_pending_move_iff {c : Nat} {s : Lifecycle} {pc : OpenPc}
    (hold : (w.calls c).pending = false) (hnew : pc.pending = false) :
    (∃ d, ((w.move c s pc).calls d).pending = true) ↔ ∃ d, (w.calls d).pending = true := by
  constructor <;> rintro ⟨d, hd⟩ <;> refine ⟨d, ?_⟩ <;> by_cases hdc : d = c
  all_goals first
    | (subst hdc; simp_all)
    | simpa [move_calls_other _ _ hdc] using hd

/-- A step that keeps the lifecycle state and moves a caller that holds no handle before or
after it. -/
theorem move_quiet (h : ExclInv w) {c : Nat} {pc : OpenPc}
    (hinv : OpenInv (w.move c w.life pc)) (hx : (w.move c w.life pc).Exclusive)
    (hold : (w.calls c).pending = false) (hnew : pc.pending = false)
    (hwin : pc.inWindow = true → w.life.isOpen = false) : ExclInv (w.move c w.life pc) := by
  refine ⟨hinv, hx, h.workers, fun d hd => ?_, h.created_le, ?_⟩
  · by_cases hdc : d = c
    · subst hdc; exact hwin (by simpa using hd)
    · exact h.window_shut d (by rwa [move_calls_other _ _ hdc] at hd)
  · simpa [exists_pending_move_iff hold hnew] using h.created_pos

/-- A step that keeps the lifecycle state, while the transport is not open, and moves a caller to
a position holding a handle there is. -/
theorem move_pending (h : ExclInv w) {c : Nat} {pc : OpenPc}
    (hinv : OpenInv (w.move c w.life pc)) (hx : (w.move c w.life pc).Exclusive)
    (hpos : 0 < w.life.created) (ho : w.life.isOpen = false) (hnew : pc.pending = true) :
    ExclInv (w.move c w.life pc) := by
  refine ⟨hinv, hx, h.workers, fun d hd => ?_, h.created_le,
    ⟨fun _ => .inr ⟨c, by simpa using hnew⟩, fun _ => hpos⟩⟩
  by_cases hdc : d = c
  · exact ho
  · exact h.window_shut d (by rwa [move_calls_other _ _ hdc] at hd)

/-- Taking a handle: a caller in the window creates the only one and moves to `baseTest`. -/
theorem move_handle (h : ExclInv w) {c : Nat} {hs : Bool}
    (hinv : OpenInv (w.move c { w.life with handleSet := hs, created := w.life.created + 1 }
      .baseTest))
    (hx : (w.move c { w.life with handleSet := hs, created := w.life.created + 1 }
      .baseTest).Exclusive)
    (hwin : (w.calls c).inWindow = true) (hold : (w.calls c).pending = false) :
    ExclInv (w.move c { w.life with handleSet := hs, created := w.life.created + 1 }
      .baseTest) := by
  have ho := h.window_shut c hwin
  have h0 : w.life.created = 0 := by
    by_contra hne
    rcases h.created_pos.mp (Nat.pos_of_ne_zero hne) with hopen | hp
    · simp [ho] at hopen
    · simp [(h.pending_iff hwin).mp hp] at hold
  refine ⟨hinv, hx, h.workers, fun d hd => ?_, by simp [h0],
    ⟨fun _ => .inr ⟨c, by simp [OpenPc.pending]⟩, fun _ => by simp⟩⟩
  by_cases hdc : d = c
  · exact ho
  · exact h.window_shut d (by rwa [move_calls_other _ _ hdc] at hd)

/-- `is_open = true` and the workers: the one caller in the window spawns the only pair. -/
theorem spawn (h : ExclInv w) {c : Nat}
    (hinv : OpenInv (w.move c w.life.spawnWorkers .bind))
    (hx : (w.move c w.life.spawnWorkers .bind).Exclusive) (hc : w.calls c = .setOpen) :
    ExclInv (w.move c w.life.spawnWorkers .bind) := by
  have hwin : (w.calls c).inWindow = true := by simp [hc, OpenPc.inWindow]
  have ho := h.window_shut c hwin
  have hw := h.workers
  simp only [ho, Bool.false_eq_true, ↓reduceIte] at hw
  refine ⟨hinv, hx, by simp [hw], fun d hd => ?_, h.created_le,
    ⟨fun _ => .inl rfl, fun _ => h.created_pos.mpr (.inr ⟨c, by simp [hc, OpenPc.pending]⟩)⟩⟩
  by_cases hdc : d = c
  · subst hdc; simp [OpenPc.inWindow] at hd
  · rw [move_calls_other _ _ hdc] at hd
    exact absurd (h.exclusive d c hd hwin) hdc

/-- **One step.** Every step whose result has no overlapping opens keeps the invariant. -/
theorem step (h : ExclInv w) {a : OpenStep} (hs : w.step m a = some w') (hx : w'.Exclusive) :
    ExclInv w' := by
  have hinv := h.inv.step hs
  rcases step_cases hs with ⟨c, pc, hi, hpc, rfl⟩ | ⟨c, ok, s, pc, hc, rfl⟩
  · exact h.move_quiet hinv hx (by simp [hi, OpenPc.pending])
      (by rcases hpc with rfl | rfl <;> rfl)
      (by rcases hpc with rfl | rfl <;> simp [OpenPc.inWindow])
  have hcl := h.inv.closed
  have hshut := h.window_shut c
  cases hpcw : w.calls c <;> simp only [callerStep, hpcw, reduceCtorEq] at hc hshut
  case ensureTest =>
    obtain ⟨rfl, rfl⟩ := Prod.mk.inj (Option.some.inj hc)
    exact h.move_quiet hinv hx (by simp [hpcw, OpenPc.pending])
      (by split_ifs <;> rfl) (by split_ifs <;> simp [OpenPc.inWindow])
  case mediumTest =>
    split at hc <;> obtain ⟨rfl, rfl⟩ := Prod.mk.inj (Option.some.inj hc)
    · exact h.move_quiet hinv hx (by simp [hpcw, OpenPc.pending]) rfl (by simp [OpenPc.inWindow])
    · simp only [hcl, Bool.false_eq_true, ↓reduceIte] at hinv hx ⊢
      exact h.move_quiet hinv hx (by simp [hpcw, OpenPc.pending]) rfl
        (fun _ => Bool.eq_false_iff.mpr ‹_›)
  case acquire =>
    have hold : (w.calls c).pending = false := by simp [hpcw, OpenPc.pending]
    have hwin : (w.calls c).inWindow = true := by simp [hpcw, OpenPc.inWindow]
    cases m <;> simp only at hc <;> split at hc <;>
      obtain ⟨rfl, rfl⟩ := Prod.mk.inj (Option.some.inj hc)
    · exact h.move_pending hinv hx (h.inv.handle ‹_›) (hshut rfl) rfl
    · exact h.move_quiet hinv hx hold rfl (fun _ => hshut rfl)
    all_goals first
      | exact h.move_handle hinv hx hwin hold
      | exact h.move_quiet hinv hx hold rfl (by simp [OpenPc.inWindow])
  case ttyOpen =>
    have hold : (w.calls c).pending = false := by simp [hpcw, OpenPc.pending]
    split at hc <;> obtain ⟨rfl, rfl⟩ := Prod.mk.inj (Option.some.inj hc)
    · exact h.move_handle hinv hx (by simp [hpcw, OpenPc.inWindow]) hold
    · exact h.move_quiet hinv hx hold rfl (by simp [OpenPc.inWindow])
  case baseTest =>
    obtain ⟨rfl, rfl⟩ := Prod.mk.inj (Option.some.inj hc)
    have ho := hshut rfl
    simp only [ho, Bool.false_eq_true, ↓reduceIte] at hinv hx ⊢
    exact h.move_pending hinv hx (h.created_pos.mpr (.inr ⟨c, by simp [hpcw, OpenPc.pending]⟩))
      ho rfl
  case setOpen =>
    obtain ⟨rfl, rfl⟩ := Prod.mk.inj (Option.some.inj hc)
    exact h.spawn hinv hx hpcw
  case bind =>
    obtain ⟨rfl, rfl⟩ := Prod.mk.inj (Option.some.inj hc)
    exact h.move_quiet hinv hx (by simp [hpcw, OpenPc.pending]) rfl (by simp [OpenPc.inWindow])

end ExclInv

theorem ExclReachable.exclInv {m : Medium} {w : OpenWorld} (h : ExclReachable m w) :
    ExclInv w := by
  induction h with
  | init => exact .init
  | step _ _ hs hx ih => exact ih.step hs hx

/-- **One pair, unless opens overlap.** In every interleaving of callers auto-opening a
never-opened transport, there are as many receive as send workers, some exactly when `is_open`
is set, and `is_open` is set once any call's open returned without raising. In the
interleavings where no two callers are ever at once between the medium's test of `is_open` and
its setting, there is exactly one worker of each kind and one OS handle as soon as the
transport is open, and never more. -/
theorem opens_spawn_one_pair_unless_they_overlap (m : Medium) :
    (∀ w, OpenReachable m w → w.life.receiveWorkers = w.life.sendWorkers ∧
      (w.life.isOpen = true ↔ 0 < w.life.sendWorkers) ∧
      ∀ c, w.calls c = .done none → w.life.isOpen = true) ∧
    (∀ w, ExclReachable m w → w.life.receiveWorkers = w.life.sendWorkers ∧
      w.life.sendWorkers = (if w.life.isOpen then 1 else 0) ∧ w.life.created ≤ 1 ∧
      (w.life.isOpen = true → w.life.created = 1)) := by
  refine ⟨fun w hw => ?_, fun w hw => ?_⟩
  · have h := hw.openInv
    exact ⟨h.pairs, h.open_iff, fun c hc => h.returned c (.inr hc)⟩
  · have h := hw.exclInv
    exact ⟨h.inv.pairs, h.workers, h.created_le,
      fun ho => le_antisymm h.created_le (h.created_pos.mpr (.inl ho))⟩

/-- A lone caller's auto-open of a serial port: the port is open with one pair of workers and
one handle, the caller's open returned, and both invariants hold there. -/
theorem lone_auto_open_spawns_one_pair :
    ∃ w, ExclReachable .serialPort w ∧ w.life = ⟨true, false, 1, 1, true, 1, 0⟩ ∧
      w.calls 0 = .done none ∧
      (w.life.receiveWorkers = w.life.sendWorkers ∧
        (w.life.isOpen = true ↔ 0 < w.life.sendWorkers) ∧
        ∀ c, w.calls c = .done none → w.life.isOpen = true) ∧
      (w.life.receiveWorkers = w.life.sendWorkers ∧
        w.life.sendWorkers = (if w.life.isOpen then 1 else 0) ∧ w.life.created ≤ 1 ∧
        (w.life.isOpen = true → w.life.created = 1)) := by
  obtain ⟨w, hw, he⟩ := ExclReachable.of_lone_run .serialPort
    (.call 0 :: List.replicate 7 (.advance 0 true)) 0 (fun w => (w.life, w.calls 0))
    (⟨true, false, 1, 1, true, 1, 0⟩, .done none) (by decide) rfl
  simp only [Prod.mk.injEq] at he
  exact ⟨w, hw, he.1, he.2, (opens_spawn_one_pair_unless_they_overlap .serialPort).1 w
    hw.openReachable, (opens_spawn_one_pair_unless_they_overlap .serialPort).2 w hw⟩

/-- Two callers auto-open together, step for step: both pass every test before either sets
`is_open`. -/
def raceTrace (m : Medium) : List OpenStep :=
  [.call 0, .call 1] ++
    (List.replicate (if m = .serialPort then 6 else 5) [.advance 0 true, .advance 1 true]).flatten

/-- **Overlapping opens spawn twice.** On every medium, two callers that auto-open a fresh
transport in step reach a state with two send workers, two receive workers and two OS
handles. -/
theorem concurrent_opens_spawn_two_pairs (m : Medium) :
    ∃ w, OpenReachable m w ∧ w.life.sendWorkers = 2 ∧ w.life.receiveWorkers = 2 ∧
      w.life.created = 2 := by
  obtain ⟨w, hw, he⟩ := OpenWorld.reachable_of_run m (raceTrace m)
    (fun w => (w.life.sendWorkers, w.life.receiveWorkers, w.life.created)) (2, 2, 2)
    (by cases m <;> decide)
  simp only [Prod.mk.injEq] at he
  exact ⟨w, hw, he⟩

end Transport
