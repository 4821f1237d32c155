import Transport.Logging.Levels

/-
  Transport.Logging.Global — the logger tree under every call the library makes on it.

      get_child<T>(name, level)   walk the tree below a logger, creating what is missing
                                  (`get_logger(name, level)` is this on the global logger)
      set_level(level)            `_level = level`            (`log_set_level` on the global one)
      add_stream(stream)          `_streams.push_back(...)`
      log_init(level)             `set_global_logger(unique_ptr<Logger>(new Logger(str2level(..))))`
      set_global_logger(logger)   `global_logger->move_children_to(*logger);`
                                  `global_logger = std::move(logger);`  — the old one is deleted
      move_children_to(target)    for each entry of `logger_cache`: `_parent = &target`, insert it
                                  into `target.logger_cache`, erase it here

  A state is the heap of loggers, each logger's `_streams`, the logger `_get_global_logger()`
  holds, and the global loggers `set_global_logger` has deleted.  A call is made on a logger a
  caller holds; one on a deleted logger is a dangling pointer and is outside the model.

  The invariant `LogState.Wf` keeps the tree a tree: every parent is older than its child or is
  the global logger, which has none; a logger is in a cache exactly when the cache's owner is its
  `_parent`; and a deleted logger is in no cache and parent of none.  From it, in every reachable
  state the two recursions of `Transport.Logging.Levels` return within as many calls as there
  are loggers, over a chain of live loggers.

  Main results:
    * `LogState.Wf.step` — every call keeps the invariant.
    * `level_returns_first_known_level` — `level()` returns, never `UNKNOWN`.
    * `log_message_follows_route` — `log_message` and `vlog` write as `route` says.
    * `log_init_moves_the_tree` — `log_init` hangs the old global logger's children under the
      new one, keeps every named logger where `get_logger` finds it, and deletes the global
      logger, which `get_logger` hands out for a name without components.
    * `log_set_level_reaches_inheriting_loggers` — `log_set_level` is read back by `log_level`,
      and changes `level()` of exactly the loggers that inherit it.

  `demoState`, reached by four calls, has a logger with a level of its own between a leaf and
  the global logger; each result is shown there on a logger that inherits and one that does not.
-/

namespace Transport

namespace Loggers

/-! ## §1. The shape of the tree. -/

/-- The tree with global logger `g`: caches point below `next`; `g` is below `next` and has no
parent; every other parent is older than its child; a logger is in a cache exactly when the
cache's owner is its `_parent`. -/
structure Shape (L : Loggers) (g : Nat) : Prop where
  valid : L.Valid
  global_lt : g < L.next
  global_root : (L.nodes g).parent = none
  parent_lt : ∀ j < L.next, ∀ p, (L.nodes j).parent = some p → p < j ∨ p = g
  cache_parent : ∀ p < L.next, ∀ k j, (L.nodes p).cache k = some j → (L.nodes j).parent = some p
  parent_cache : ∀ j < L.next, ∀ p, (L.nodes j).parent = some p → ∃ k, (L.nodes p).cache k = some j

variable {L L' : Loggers} {g : Nat}

/-- A shape depends only on `next`, the parents and the caches. -/
theorem Shape.congr (hS : L.Shape g) (hnext : L'.next = L.next)
    (hparent : ∀ i, (L'.nodes i).parent = (L.nodes i).parent)
    (hcache : ∀ i, (L'.nodes i).cache = (L.nodes i).cache) : L'.Shape g where
  valid p hp k m h := by rw [hcache] at h; rw [hnext] at hp ⊢; exact hS.valid p hp k m h
  global_lt := hnext ▸ hS.global_lt
  global_root := (hparent g).trans hS.global_root
  parent_lt j hj p h := hS.parent_lt j (hnext ▸ hj) p ((hparent j).symm.trans h)
  cache_parent p hp k j h := by
    rw [hparent]; rw [hcache] at h; exact hS.cache_parent p (hnext ▸ hp) k j h
  parent_cache j hj p h := by
    simp only [hcache]; exact hS.parent_cache j (hnext ▸ hj) p ((hparent j).symm.trans h)

/-- The loggers a cache holds are exactly those whose `_parent` is its owner. -/
theorem Shape.parent_iff (hS : L.Shape g) {j p : Nat} (hj : j < L.next) (hp : p < L.next) :
    (L.nodes j).parent = some p ↔ ∃ k, (L.nodes p).cache k = some j :=
  ⟨hS.parent_cache j hj p, fun ⟨k, h⟩ => hS.cache_parent p hp k j h⟩

/-- A logger's parent is a logger of the tree. -/
theorem Shape.parent_lt_next (hS : L.Shape g) {j p : Nat} (hj : j < L.next)
    (h : (L.nodes j).parent = some p) : p < L.next := by
  rcases hS.parent_lt j hj p h with h' | rfl
  · omega
  · exact hS.global_lt

variable {cls : String} {n : Nat} {c : List Char} {level : Level}

theorem newChild_parent {j : Nat} (hj : j < L.next) :
    ((L.newChild cls c level n).1.nodes j).parent = (L.nodes j).parent := by
  rw [newChild_nodes hj]

theorem newChild_cache {j : Nat} (hj : j < L.next) (k : List Char) :
    ((L.newChild cls c level n).1.nodes j).cache k =
      if j = n ∧ k = c then some L.next else (L.nodes j).cache k := by
  rw [newChild_nodes hj]

/-- `new T_Logger(base_name, level, this)` with its cache entry keeps the shape. -/
theorem newChild_shape (hS : L.Shape g) (hn : n < L.next) (hmiss : (L.nodes n).cache c = none) :
    (L.newChild cls c level n).1.Shape g where
  valid := newChild_valid hS.valid
  global_lt := by simp only [newChild_next]; have := hS.global_lt; omega
  global_root := (newChild_parent hS.global_lt).trans hS.global_root
  parent_lt j hj p h := by
    rw [newChild_next] at hj
    rcases Nat.lt_succ_iff_lt_or_eq.mp hj with hj | rfl
    · rw [newChild_parent hj] at h
      exact hS.parent_lt j hj p h
    · simp only [newChild_new, Option.some.injEq] at h
      omega
  cache_parent p hp k j h := by
    rw [newChild_next] at hp
    rcases Nat.lt_succ_iff_lt_or_eq.mp hp with hp | rfl
    · rw [newChild_cache hp] at h
      split at h
      · obtain ⟨rfl, -⟩ := ‹_ ∧ _›
        cases h
        simp
      · have hj := hS.valid p hp k j h
        rw [newChild_parent hj]
        exact hS.cache_parent p hp k j h
    · simp at h
  parent_cache j hj p h := by
    rw [newChild_next] at hj
    rcases Nat.lt_succ_iff_lt_or_eq.mp hj with hj | rfl
    · rw [newChild_parent hj] at h
      obtain ⟨k, hk⟩ := hS.parent_cache j hj p h
      refine ⟨k, ?_⟩
      rw [newChild_cache (hS.parent_lt_next hj h)]
      rw [if_neg]
      · exact hk
      · rintro ⟨rfl, rfl⟩
        rw [hmiss] at hk
        cases hk
    · simp only [newChild_new, Option.some.injEq] at h
      subst h
      exact ⟨c, by simp [newChild_cache hn]⟩

/-- Taking or creating the child under `c` keeps the shape. -/
theorem cachedChild_shape (hS : L.Shape g) (hn : n < L.next) :
    (L.cachedChild cls n c level).1.Shape g := by
  unfold cachedChild
  split
  · exact hS
  · exact newChild_shape hS hn ‹_›

/-- Taking or creating a child leaves every other root alone. -/
theorem cachedChild_frame {i : Nat} (hi : i < L.next) (hne : i ≠ n) :
    (L.cachedChild cls n c level).1.nodes i = L.nodes i := by
  unfold cachedChild
  split
  · rfl
  · rw [newChild_nodes hi]
    simp [hne]

variable {L' : Loggers} {r : Nat}

/-- **The walk keeps the shape**, and ends at a logger of the tree. -/
theorem descend_shape {comps : List (List Char)} (hS : L.Shape g) (hn : n < L.next)
    (h : L.descend cls n level comps = (L', r)) : L'.Shape g ∧ r < L'.next := by
  induction comps generalizing L cls n with
  | nil =>
    obtain ⟨rfl, rfl⟩ := Prod.mk.inj h
    exact ⟨hS, hn⟩
  | cons c cs ih =>
    exact ih (cachedChild_shape hS hn) (cachedChild_spec cls c level hS.valid hn).2.2.1 h

/-- **The walk leaves the other roots alone**: a logger without a parent where it does not
start is not on it. -/
theorem descend_frame {comps : List (List Char)} (hS : L.Shape g) (hn : n < L.next)
    (h : L.descend cls n level comps = (L', r)) {i : Nat} (hi : i < L.next)
    (hroot : (L.nodes i).parent = none) (hne : i ≠ n) : L'.nodes i = L.nodes i := by
  induction comps generalizing L cls n with
  | nil =>
    obtain ⟨rfl, -⟩ := Prod.mk.inj h
    rfl
  | cons c cs ih =>
    obtain ⟨hext, -, hm, hcache⟩ := cachedChild_spec cls c level hS.valid hn
    have hS₁ : (L.cachedChild cls n c level).1.Shape g := cachedChild_shape hS hn
    have hframe : (L.cachedChild cls n c level).1.nodes i = L.nodes i := cachedChild_frame hi hne
    rw [← hframe]
    refine ih hS₁ hm h (lt_of_lt_of_le hi hext.next_le) (hframe ▸ hroot) fun him => ?_
    have hpar := hS₁.cache_parent n (lt_of_lt_of_le hn hext.next_le) c _ hcache
    rw [← him, hframe, hroot] at hpar
    cases hpar

/-- The walk creates only loggers with a parent: a logger without one after it was one before. -/
theorem descend_root {comps : List (List Char)} (h : L.descend cls n level comps = (L', r))
    {j : Nat} (hj : j < L'.next) (hroot : (L'.nodes j).parent = none) :
    j < L.next ∧ (L.nodes j).parent = none := by
  induction comps generalizing L cls n with
  | nil =>
    obtain ⟨rfl, -⟩ := Prod.mk.inj h
    exact ⟨hj, hroot⟩
  | cons c cs ih =>
    obtain ⟨hlt, hroot₁⟩ := ih h
    cases hc : (L.nodes n).cache c with
    | some m => simpa only [cachedChild, hc] using And.intro hlt hroot₁
    | none =>
      simp only [cachedChild, hc, newChild_next] at hlt hroot₁
      rcases Nat.lt_succ_iff_lt_or_eq.mp hlt with hlt | rfl
      · exact ⟨hlt, (newChild_parent hlt).symm.trans hroot₁⟩
      · simp at hroot₁

/-- **Chains of parents end.**  From any logger of a tree the chain of parents reaches the root
within `j + 1` loggers (within one from the global logger), through loggers of the tree each of
which, past the first, has a child in its cache. -/
theorem Shape.chain_exists (hS : L.Shape g) {j : Nat} (hj : j < L.next) :
    ∀ fuel, (if j = g then 0 else j + 1) < fuel → ∃ c, L.chain fuel j = some c ∧
      ∀ i ∈ c, i < L.next ∧ (i = j ∨ ∃ k m, (L.nodes i).cache k = some m) := by
  intro fuel hf
  induction fuel generalizing j with
  | zero => omega
  | succ fuel ih =>
    cases hp : (L.nodes j).parent with
    | none =>
      refine ⟨[j], by simp [chain, hp], fun i hi => ?_⟩
      obtain rfl := List.mem_singleton.mp hi
      exact ⟨hj, .inl rfl⟩
    | some p =>
      have hjg : j ≠ g := fun h => by rw [h, hS.global_root] at hp; cases hp
      have hpf : (if p = g then 0 else p + 1) < fuel := by
        rcases hS.parent_lt j hj p hp with h | h <;> split_ifs at hf ⊢ <;> omega
      obtain ⟨c, hc, hmem⟩ := ih (hS.parent_lt_next hj hp) hpf
      refine ⟨j :: c, by simp [chain, hp, hc], fun i hi => ?_⟩
      rcases List.mem_cons.mp hi with rfl | hi
      · exact ⟨hj, .inl rfl⟩
      · obtain ⟨hi', hor⟩ := hmem i hi
        refine ⟨hi', .inr ?_⟩
        rcases hor with rfl | h
        · obtain ⟨k, hk⟩ := hS.parent_cache j hj i hp
          exact ⟨k, j, hk⟩
        · exact h

/-- `Logger::set_level(level)` on `j`. -/
def setLevel (L : Loggers) (j : Nat) (level : Level) : Loggers :=
  ⟨Function.update L.nodes j { L.nodes j with level := level }, L.next⟩

@[simp] theorem setLevel_next (j : Nat) (l : Level) : (L.setLevel j l).next = L.next := rfl

theorem setLevel_nodes (j i : Nat) (l : Level) :
    (L.setLevel j l).nodes i = if i = j then { L.nodes i with level := l } else L.nodes i := by
  simp only [setLevel, Function.update_apply]
  split
  · subst i; rfl
  · rfl

@[simp] theorem setLevel_parent (j i : Nat) (l : Level) :
    ((L.setLevel j l).nodes i).parent = (L.nodes i).parent := by
  rw [setLevel_nodes]; split <;> rfl

@[simp] theorem setLevel_cache (j i : Nat) (l : Level) :
    ((L.setLevel j l).nodes i).cache = (L.nodes i).cache := by
  rw [setLevel_nodes]; split <;> rfl

end Loggers

/-! ## §2. The library's calls. -/

/-- The logging library's state: the heap of loggers, the `_streams` of each logger (a stream by
the number it was added under), the logger `_get_global_logger()` holds, and the global loggers
`set_global_logger` has deleted. -/
structure LogState where
  tree : Loggers
  streams : Nat → List Nat
  global : Nat
  freed : List Nat

namespace LogState

/-- Before any call: `_get_global_logger()`'s `new Logger(LogLevel::INFO)` alone, no streams. -/
def init : LogState := ⟨Loggers.root, fun _ => [], 0, []⟩

/-- A logger a caller can use: allocated, and not deleted. -/
def Live (S : LogState) (j : Nat) : Prop := j < S.tree.next ∧ j ∉ S.freed

instance (S : LogState) (j : Nat) : Decidable (S.Live j) :=
  inferInstanceAs (Decidable (_ ∧ _))

/-- `set_global_logger(std::unique_ptr<Logger>(new Logger(level)))`, as `log_init` makes it:
`new Logger(level)` at the next pointer, with no name, no parent and no streams;
`move_children_to` hands it the old global logger's cache and makes it the `_parent` of every
logger of that cache — the loggers whose `_parent` is the old one (`Shape.parent_iff`) —, and
leaves the old cache empty; the `unique_ptr` assignment then deletes the old global logger. -/
def setGlobalLogger (S : LogState) (level : Level) : LogState where
  tree :=
    ⟨fun j =>
      if j = S.tree.next then ⟨[], none, level, (S.tree.nodes S.global).cache, "Logger"⟩
      else if j = S.global then { S.tree.nodes j with cache := fun _ => none }
      else if (S.tree.nodes j).parent = some S.global then
        { S.tree.nodes j with parent := some S.tree.next }
      else S.tree.nodes j,
     S.tree.next + 1⟩
  streams := Function.update S.streams S.tree.next []
  global := S.tree.next
  freed := S.global :: S.freed

end LogState

/-- A call on the library, made on a logger `self` a caller holds. -/
inductive LogCall where
  | getChild (self : Nat) (cls : String) (name : List Char) (level : Level)
  | setLevel (self : Nat) (level : Level)
  | addStream (self : Nat) (stream : Nat)
  | logInit (level env : Option (List Char))

namespace LogState

/-- What a call does; `none` for a call on a logger that is not live. -/
def step (S : LogState) : LogCall → Option LogState
  | .getChild self cls name level =>
    if S.Live self then some { S with tree := (getChild S.tree cls self name level).1 } else none
  | .setLevel self level =>
    if S.Live self then some { S with tree := S.tree.setLevel self level } else none
  | .addStream self stream =>
    if S.Live self then
      some { S with streams := Function.update S.streams self (S.streams self ++ [stream]) }
    else none
  | .logInit level env => some (S.setGlobalLogger (str2level (logInitLevel level env)))

/-- The calls of a run, in order. -/
def run (S : LogState) : List LogCall → Option LogState
  | [] => some S
  | a :: as => (S.step a).bind (·.run as)

end LogState

/-- The states the library can reach from the start. -/
inductive LogReachable : LogState → Prop
  | init : LogReachable LogState.init
  | step {S S' : LogState} {a : LogCall} : LogReachable S → S.step a = some S' → LogReachable S'

theorem LogReachable.run {S S' : LogState} {as : List LogCall} (h : LogReachable S)
    (hr : S.run as = some S') : LogReachable S' := by
  induction as generalizing S with
  | nil => cases hr; exact h
  | cons a as ih =>
    simp only [LogState.run, Option.bind_eq_some] at hr
    obtain ⟨S₁, h₁, hr⟩ := hr
    exact ih (.step h h₁) hr

namespace LogState

variable {S : LogState} {l : Level}

@[simp] theorem setGlobalLogger_next : (S.setGlobalLogger l).tree.next = S.tree.next + 1 := rfl
@[simp] theorem setGlobalLogger_global : (S.setGlobalLogger l).global = S.tree.next := rfl
@[simp] theorem setGlobalLogger_freed : (S.setGlobalLogger l).freed = S.global :: S.freed := rfl

/-- The new global logger. -/
@[simp] theorem setGlobalLogger_new :
    (S.setGlobalLogger l).tree.nodes S.tree.next =
      ⟨[], none, l, (S.tree.nodes S.global).cache, "Logger"⟩ := by
  simp [setGlobalLogger]

/-- Below the new pointer, `set_global_logger` re-parents the old global logger's children,
empties its cache, and changes nothing else. -/
theorem setGlobalLogger_old {j : Nat} (hj : j < S.tree.next) :
    (S.setGlobalLogger l).tree.nodes j =
      { S.tree.nodes j with
        parent := if (S.tree.nodes j).parent = some S.global ∧ j ≠ S.global then some S.tree.next
          else (S.tree.nodes j).parent
        cache := fun k => if j = S.global then none else (S.tree.nodes j).cache k } := by
  simp only [setGlobalLogger, if_neg (Nat.ne_of_lt hj)]
  by_cases hjg : j = S.global
  · simp [hjg]
  · by_cases hp : (S.tree.nodes j).parent = some S.global <;> simp [hjg, hp]

/-- What a call can do: on a live logger, walk the tree below it, set its level or add a stream
to it; or `log_init`. -/
theorem step_cases {a : LogCall} {S' : LogState} (h : S.step a = some S') :
    (∃ self cls name level, S.Live self ∧
      S' = { S with tree := (getChild S.tree cls self name level).1 }) ∨
    (∃ self level, S' = { S with tree := S.tree.setLevel self level }) ∨
    (∃ self stream,
      S' = { S with streams := Function.update S.streams self (S.streams self ++ [stream]) }) ∨
    (∃ level env, S' = S.setGlobalLogger (str2level (logInitLevel level env))) := by
  cases a with
  | logInit level env => exact .inr (.inr (.inr ⟨level, env, (Option.some.inj h).symm⟩))
  | _ =>
    simp only [step] at h
    split at h
    · first
        | exact .inl ⟨_, _, _, _, ‹_›, (Option.some.inj h).symm⟩
        | exact .inr (.inl ⟨_, _, (Option.some.inj h).symm⟩)
        | exact .inr (.inr (.inl ⟨_, _, (Option.some.inj h).symm⟩))
    · cases h

/-! ## §3. The invariant over every run. -/

/-- The invariant of the logger tree: its shape around the global logger, which is live, and
deleted loggers below `next`, without parent or children. -/
structure Wf (S : LogState) : Prop where
  shape : S.tree.Shape S.global
  global_live : S.global ∉ S.freed
  freed_lt : ∀ f ∈ S.freed, f < S.tree.next
  freed_root : ∀ f ∈ S.freed, (S.tree.nodes f).parent = none
  freed_empty : ∀ f ∈ S.freed, ∀ k, (S.tree.nodes f).cache k = none

theorem Wf.init : LogState.init.Wf where
  shape :=
    { valid := Loggers.root_valid
      global_lt := by decide
      global_root := rfl
      parent_lt := fun _ _ _ h => by cases h
      cache_parent := fun _ _ _ _ h => by cases h
      parent_cache := fun _ _ _ h => by cases h }
  global_live := List.not_mem_nil _
  freed_lt := fun _ h => absurd h (List.not_mem_nil _)
  freed_root := fun _ h => absurd h (List.not_mem_nil _)
  freed_empty := fun _ h => absurd h (List.not_mem_nil _)

/-- `set_global_logger` keeps the shape, around the new global logger. -/
theorem setGlobalLogger_shape (hS : S.tree.Shape S.global) :
    (S.setGlobalLogger l).tree.Shape (S.setGlobalLogger l).global := by
  have hg := hS.global_lt
  have hgg : (S.tree.nodes S.global).parent ≠ some S.global := by rw [hS.global_root]; simp
  refine ⟨fun p hp k m h => ?_, by simp, by simp, fun j hj p h => ?_, fun p hp k j h => ?_,
    fun j hj p h => ?_⟩ <;> simp only [setGlobalLogger_next, setGlobalLogger_global] at *
  · rcases Nat.lt_succ_iff_lt_or_eq.mp hp with hp | rfl
    · rw [setGlobalLogger_old hp] at h
      dsimp only at h
      split at h
      · cases h
      · have := hS.valid p hp k m h; omega
    · simp only [setGlobalLogger_new] at h
      have := hS.valid _ hg k m h; omega
  · rcases Nat.lt_succ_iff_lt_or_eq.mp hj with hj | rfl
    · rw [setGlobalLogger_old hj] at h
      split at h
      · exact .inr (Option.some.inj h).symm
      · rcases hS.parent_lt j hj p h with hlt | rfl
        · exact .inl hlt
        · rename_i hno
          refine absurd ⟨h, fun hjg => ?_⟩ hno
          rw [hjg] at h
          exact hgg h
    · simp at h
  · rcases Nat.lt_succ_iff_lt_or_eq.mp hp with hp | rfl
    · rw [setGlobalLogger_old hp] at h
      dsimp only at h
      split at h
      · cases h
      · rename_i hpg
        have hj := hS.valid p hp k j h
        have hpar := hS.cache_parent p hp k j h
        rw [setGlobalLogger_old hj]
        simp [hpar, hpg]
    · simp only [setGlobalLogger_new] at h
      have hj := hS.valid _ hg k j h
      have hpar := hS.cache_parent _ hg k j h
      have hjg : j ≠ S.global := fun hjg => hgg (hjg ▸ hpar)
      rw [setGlobalLogger_old hj]
      simp [hpar, hjg]
  · rcases Nat.lt_succ_iff_lt_or_eq.mp hj with hj | rfl
    · rw [setGlobalLogger_old hj] at h
      split at h
      · rename_i hc
        obtain rfl := (Option.some.inj h).symm
        obtain ⟨k, hk⟩ := hS.parent_cache j hj _ hc.1
        exact ⟨k, by simp [hk]⟩
      · rename_i hno
        have hjg : j ≠ S.global := fun hjg => by rw [hjg, hS.global_root] at h; cases h
        have hpg : p ≠ S.global := fun hpg => hno ⟨hpg ▸ h, hjg⟩
        have hp := hS.parent_lt_next hj h
        obtain ⟨k, hk⟩ := hS.parent_cache j hj p h
        refine ⟨k, ?_⟩
        rw [setGlobalLogger_old hp]
        simp [hpg, hk]
    · simp at h

/-- **Every call keeps the invariant.** -/
theorem Wf.step (hS : S.Wf) {a : LogCall} {S' : LogState} (h : S.step a = some S') : S'.Wf := by
  rcases step_cases h with ⟨self, cls, name, level, hlive, rfl⟩ | ⟨self, level, rfl⟩ |
    ⟨self, stream, rfl⟩ | ⟨level, env, rfl⟩
  · rcases hres : getChild S.tree cls self name level with ⟨L', r⟩
    rw [getChild_eq_descend] at hres
    obtain ⟨hshape, -⟩ := Loggers.descend_shape hS.shape hlive.1 hres
    have hnext : S.tree.next ≤ L'.next := by
      have : (S.tree.descend (firstClass cls name) self level (components name)).1.next =
          S.tree.next + S.tree.missing self (components name) := Loggers.descend_next _ _
      rw [hres] at this
      exact this ▸ Nat.le_add_right _ _
    have hframe : ∀ f ∈ S.freed, L'.nodes f = S.tree.nodes f := fun f hf =>
      Loggers.descend_frame hS.shape hlive.1 hres (hS.freed_lt f hf) (hS.freed_root f hf)
        fun h => hlive.2 (h ▸ hf)
    exact ⟨hshape, hS.global_live, fun f hf => lt_of_lt_of_le (hS.freed_lt f hf) hnext,
      fun f hf => (hframe f hf).symm ▸ hS.freed_root f hf,
      fun f hf => (hframe f hf).symm ▸ hS.freed_empty f hf⟩
  · exact ⟨hS.shape.congr rfl (fun _ => Loggers.setLevel_parent ..)
        (fun _ => Loggers.setLevel_cache ..), hS.global_live, hS.freed_lt,
      fun f hf => by simpa using hS.freed_root f hf,
      fun f hf => by simpa using hS.freed_empty f hf⟩
  · exact ⟨hS.shape, hS.global_live, hS.freed_lt, hS.freed_root, hS.freed_empty⟩
  · have hg := hS.shape.global_lt
    have hold : ∀ f ∈ S.freed, f ≠ S.global := fun f hf hfg => hS.global_live (hfg ▸ hf)
    refine ⟨setGlobalLogger_shape hS.shape, ?_, ?_, ?_, ?_⟩
    · simp only [setGlobalLogger_global, setGlobalLogger_freed, List.mem_cons, not_or]
      exact ⟨Nat.ne_of_gt hg, fun hf => absurd (hS.freed_lt _ hf) (lt_irrefl _)⟩
    · simp only [setGlobalLogger_next, setGlobalLogger_freed, List.mem_cons]
      rintro f (rfl | hf)
      · omega
      · have := hS.freed_lt f hf; omega
    · simp only [setGlobalLogger_freed, List.mem_cons]
      rintro f (rfl | hf)
      · simp [setGlobalLogger_old hg, hS.shape.global_root]
      · simp [setGlobalLogger_old (hS.freed_lt f hf), hS.freed_root f hf]
    · simp only [setGlobalLogger_freed, List.mem_cons]
      rintro f (rfl | hf) k
      · simp [setGlobalLogger_old hg]
      · simp [setGlobalLogger_old (hS.freed_lt f hf), hold f hf, hS.freed_empty f hf]

end LogState

/-- Every reachable state keeps the invariant. -/
theorem LogReachable.wf {S : LogState} (h : LogReachable S) : S.Wf := by
  induction h with
  | init => exact LogState.Wf.init
  | step _ hs ih => exact ih.step hs

namespace LogState

variable {S : LogState}

/-- **Live chains.**  From a live logger the chain of parents ends within `next + 1` loggers,
all of them live. -/
theorem Wf.chain_live (hS : S.Wf) {j : Nat} (hj : S.Live j) :
    ∃ c, S.tree.chain (S.tree.next + 1) j = some c ∧ ∀ i ∈ c, S.Live i := by
  have hlt := hj.1
  obtain ⟨c, hc, hmem⟩ := hS.shape.chain_exists hlt (S.tree.next + 1) (by split <;> omega)
  refine ⟨c, hc, fun i hi => ⟨(hmem i hi).1, fun hf => ?_⟩⟩
  rcases (hmem i hi).2 with rfl | ⟨k, m, hk⟩
  · exact hj.2 hf
  · rw [hS.freed_empty i hf k] at hk
    cases hk

/-- Below the new pointer, the walk through the caches from a logger other than the old global
one is the same after `set_global_logger`. -/
theorem follow_setGlobalLogger {l : Level} (hS : S.tree.Shape S.global) {m : Nat}
    (hm : m < S.tree.next) (hmg : m ≠ S.global) (comps : List (List Char)) :
    (S.setGlobalLogger l).tree.follow m comps = S.tree.follow m comps := by
  induction comps generalizing m with
  | nil => rfl
  | cons c cs ih =>
    simp only [Loggers.follow, setGlobalLogger_old hm, hmg, if_false]
    cases hc : (S.tree.nodes m).cache c with
    | none => rfl
    | some m' =>
      have hpar := hS.cache_parent m hm c m' hc
      refine ih (hS.valid m hm c m' hc) fun h => ?_
      rw [h, hS.global_root] at hpar
      cases hpar

/-- The new global logger reaches by a non-empty path what the old one reached. -/
theorem follow_new_global {l : Level} (hS : S.tree.Shape S.global) {comps : List (List Char)}
    (hne : comps ≠ []) :
    (S.setGlobalLogger l).tree.follow S.tree.next comps = S.tree.follow S.global comps := by
  obtain ⟨c, cs, rfl⟩ := List.exists_cons_of_ne_nil hne
  simp only [Loggers.follow, setGlobalLogger_new]
  cases hc : (S.tree.nodes S.global).cache c with
  | none => rfl
  | some m =>
    have hpar := hS.cache_parent _ hS.global_lt c m hc
    refine follow_setGlobalLogger hS (hS.valid _ hS.global_lt c m hc) (fun h => ?_) cs
    rw [h, hS.global_root] at hpar
    cases hpar

end LogState

/-! ## §4. What the calls give. -/

/-- The library after `get_logger("a::b")`, `get_logger("c")`, `set_level(WARN)` on "a" and
`add_stream` of stream 7 to "a": the global logger 0 with children "a" (1) and "c" (3), and
"a::b" (2) under "a". -/
def demoState : LogState where
  tree := ((Loggers.root.descend "Logger" 0 .unknown [['a'], ['b']]).1.descend "Logger" 0
    .unknown [['c']]).1.setLevel 1 .warn
  streams := Function.update (fun _ => []) 1 [7]
  global := 0
  freed := []

theorem demoState_reachable : LogReachable demoState := by
  have h : LogState.init.run [.getChild 0 "Logger" ['a', ':', ':', 'b'] .unknown,
      .getChild 0 "Logger" ['c'] .unknown, .setLevel 1 .warn, .addStream 1 7] = some demoState := by
    simp only [LogState.run, LogState.step, getChild_eq_descend]
    rfl
  exact LogReachable.init.run h

/-- **`level()` returns, never `UNKNOWN`.**  In every state the library can reach, from every
live logger, `level()` returns within as many calls as there are loggers, and more calls change
nothing: it is the first `_level` other than `UNKNOWN` on the chain of parents, a chain of live
loggers, and `INFO` when every one of them has `UNKNOWN`. -/
theorem level_returns_first_known_level {S : LogState} (hS : LogReachable S) {j : Nat}
    (hj : S.Live j) :
    ∃ c, S.tree.chain (S.tree.next + 1) j = some c ∧ (∀ i ∈ c, S.Live i) ∧
      ∀ fuel, S.tree.next + 1 ≤ fuel →
        S.tree.level fuel j = some (S.tree.effective c) ∧ S.tree.effective c ≠ .unknown := by
  obtain ⟨c, hc, hlive⟩ := hS.wf.chain_live hj
  exact ⟨c, hc, hlive, fun fuel hf =>
    ⟨Loggers.level_of_chain (Loggers.chain_mono hc hf), Loggers.effective_ne_unknown c⟩⟩

/-- "a::b" of `demoState` climbs to "a" and the global logger, and inherits "a"'s `WARN`. -/
theorem level_of_a_b_inherits_warn :
    demoState.tree.chain (demoState.tree.next + 1) 2 = some [2, 1, 0] ∧
    demoState.tree.effective [2, 1, 0] = .warn ∧
    ∃ c, demoState.tree.chain (demoState.tree.next + 1) 2 = some c ∧ (∀ i ∈ c, demoState.Live i) ∧
      ∀ fuel, demoState.tree.next + 1 ≤ fuel →
        demoState.tree.level fuel 2 = some (demoState.tree.effective c) ∧
        demoState.tree.effective c ≠ .unknown :=
  ⟨by decide, by decide, level_returns_first_known_level demoState_reachable (by decide)⟩

/-- **Where a message goes.**  In every state the library can reach, `log_message(lv, msg)` and
`vlog` at a live logger return within as many calls as there are loggers and write
`Record(name(), lv, msg)` to exactly the sinks `route` gives on its chain of parents: the streams
of the first logger of the chain that has any, or `std::cerr` when none has, and nothing at all
when `lv` is below the effective level of a logger the record climbs through. -/
theorem log_message_follows_route {S : LogState} (hS : LogReachable S) (k : LevelCodes)
    {j : Nat} (hj : S.Live j) :
    ∃ c, S.tree.chain (S.tree.next + 1) j = some c ∧ (∀ i ∈ c, S.Live i) ∧
      ∀ fuel lv msg, S.tree.next + 1 ≤ fuel →
        S.tree.logMessage k S.streams fuel j lv msg =
          some ((S.tree.route k S.streams c lv).map (·, ⟨(S.tree.nodes j).name, lv, msg⟩)) ∧
        S.tree.vlog k S.streams fuel j lv msg = S.tree.logMessage k S.streams fuel j lv msg := by
  obtain ⟨c, hc, hlive⟩ := hS.wf.chain_live hj
  exact ⟨c, hc, hlive, fun fuel lv msg hf =>
    ⟨Loggers.logMessage_of_chain (Loggers.chain_mono hc hf) lv msg,
      Loggers.vlog_eq_logMessage fuel j lv msg⟩⟩

/-- In `demoState`, with the level values 10, 20, 30, 40 and 50: an error at "a::b" climbs to
"a" and goes to its stream 7, an info there is below the `WARN` it inherits, and an info at "c"
climbs to the global logger, which has no stream, and goes to `std::cerr`. -/
theorem log_message_climbs_to_first_streams :
    demoState.tree.logMessage ⟨10, 20, 30, 40, 50⟩ demoState.streams 5 2 .error ['m'] =
      some [(.stream 7, ⟨['a', ':', ':', 'b'], .error, ['m']⟩)] ∧
    demoState.tree.logMessage ⟨10, 20, 30, 40, 50⟩ demoState.streams 5 2 .info ['m'] = some [] ∧
    demoState.tree.logMessage ⟨10, 20, 30, 40, 50⟩ demoState.streams 5 3 .info ['m'] =
      some [(.cerr, ⟨['c'], .info, ['m']⟩)] ∧
    ∀ j ∈ [2, 3], ∃ c, demoState.tree.chain (demoState.tree.next + 1) j = some c ∧
      (∀ i ∈ c, demoState.Live i) ∧
      ∀ fuel lv msg, demoState.tree.next + 1 ≤ fuel →
        demoState.tree.logMessage ⟨10, 20, 30, 40, 50⟩ demoState.streams fuel j lv msg =
          some ((demoState.tree.route ⟨10, 20, 30, 40, 50⟩ demoState.streams c lv).map
            (·, ⟨(demoState.tree.nodes j).name, lv, msg⟩)) ∧
        demoState.tree.vlog ⟨10, 20, 30, 40, 50⟩ demoState.streams fuel j lv msg =
          demoState.tree.logMessage ⟨10, 20, 30, 40, 50⟩ demoState.streams fuel j lv msg :=
  ⟨by decide, by decide, by decide, fun j hj =>
    log_message_follows_route demoState_reachable ⟨10, 20, 30, 40, 50⟩
      ((by decide : ∀ j ∈ [2, 3], demoState.Live j) j hj)⟩

/-- **`log_init` moves the tree under a new global logger.**  In every state the library can
reach, `log_init` keeps every logger but the global one live, with its name and `_level`, and
makes the new global logger the `_parent` of exactly the loggers the old one had in its cache;
`get_logger` finds each logger the old global logger reached by a name with components where it
was, creating nothing; the old global logger is deleted, and it is the logger `get_logger` had
handed out for every name without a component (`""`, `"::"`, ...). -/
theorem log_init_moves_the_tree {S S' : LogState} (hS : LogReachable S)
    {level env : Option (List Char)} (h : S.step (.logInit level env) = some S') :
    (∀ name cls lv, components name = [] →
      getLogger S.tree S.global cls name lv = (S.tree, S.global)) ∧
    ¬ S'.Live S.global ∧
    (∀ j, S.Live j → j ≠ S.global → S'.Live j ∧
      (S'.tree.nodes j).name = (S.tree.nodes j).name ∧
      (S'.tree.nodes j).level = (S.tree.nodes j).level ∧
      ((S'.tree.nodes j).parent = some S'.global ↔
        ∃ k, (S.tree.nodes S.global).cache k = some j)) ∧
    (∀ name r cls lv, components name ≠ [] → S.tree.follow S.global (components name) = some r →
      getLogger S'.tree S'.global cls name lv = (S'.tree, r)) := by
  obtain rfl := (Option.some.inj h).symm
  have hW := hS.wf
  refine ⟨fun name cls lv hc => ?_, fun hlive => hlive.2 (List.mem_cons_self _ _),
    fun j hj hjg => ?_, fun name r cls lv hc hr => ?_⟩
  · rw [getLogger, getChild_eq_descend, hc]
    rfl
  · have hlt := hj.1
    refine ⟨⟨by simp; omega, ?_⟩, by rw [LogState.setGlobalLogger_old hlt],
      by rw [LogState.setGlobalLogger_old hlt], ?_⟩
    · simp only [LogState.setGlobalLogger_freed, List.mem_cons, not_or]
      exact ⟨hjg, hj.2⟩
    · rw [LogState.setGlobalLogger_old hlt, LogState.setGlobalLogger_global,
        ← hW.shape.parent_iff hlt hW.shape.global_lt]
      by_cases hp : (S.tree.nodes j).parent = some S.global
      · simp [hp, hjg]
      · simp only [hp, false_and, if_false, iff_false]
        exact fun h => lt_irrefl _ (hW.shape.parent_lt_next hlt h)
  · rw [getLogger, getChild_eq_descend]
    exact Loggers.descend_of_follow _ ((LogState.follow_new_global hW.shape hc).trans hr)

/-- `log_init(NULL)` on `demoState`: the new global logger 4 becomes the parent of "a" and
"c", "a::b" stays under "a", and `get_logger("a::b")` finds it where it was. -/
theorem log_init_reparents_cached_children :
    (demoState.setGlobalLogger .info).global = 4 ∧
    ((demoState.setGlobalLogger .info).tree.nodes 1).parent = some 4 ∧
    ((demoState.setGlobalLogger .info).tree.nodes 3).parent = some 4 ∧
    ((demoState.setGlobalLogger .info).tree.nodes 2).parent = some 1 ∧
    demoState.tree.follow 0 (components ['a', ':', ':', 'b']) = some 2 ∧
    str2level (logInitLevel none none) = .info ∧
    (∀ name cls lv, components name = [] →
      getLogger demoState.tree demoState.global cls name lv = (demoState.tree, demoState.global)) ∧
    ¬ (demoState.setGlobalLogger .info).Live demoState.global ∧
    (∀ j, demoState.Live j → j ≠ demoState.global → (demoState.setGlobalLogger .info).Live j ∧
      ((demoState.setGlobalLogger .info).tree.nodes j).name = (demoState.tree.nodes j).name ∧
      ((demoState.setGlobalLogger .info).tree.nodes j).level = (demoState.tree.nodes j).level ∧
      (((demoState.setGlobalLogger .info).tree.nodes j).parent =
          some (demoState.setGlobalLogger .info).global ↔
        ∃ k, (demoState.tree.nodes demoState.global).cache k = some j)) ∧
    (∀ name r cls lv, components name ≠ [] →
      demoState.tree.follow demoState.global (components name) = some r →
      getLogger (demoState.setGlobalLogger .info).tree (demoState.setGlobalLogger .info).global
        cls name lv = ((demoState.setGlobalLogger .info).tree, r)) :=
  ⟨rfl, by decide, by decide, by decide, by decide, rfl,
    log_init_moves_the_tree demoState_reachable
      (show demoState.step (.logInit none none) = some (demoState.setGlobalLogger .info) from rfl)⟩

/-! ## §5. The C interface. -/

namespace Loggers

variable {L : Loggers}

/-- A chain ends at a logger without a parent, and every logger before it has one. -/
theorem chain_last {fuel j : Nat} {c : List Nat} (h : L.chain fuel j = some c) :
    ∃ pre r, c = pre ++ [r] ∧ (L.nodes r).parent = none ∧ ∀ x ∈ pre, (L.nodes x).parent ≠ none := by
  induction fuel generalizing j c with
  | zero => cases h
  | succ fuel ih =>
    simp only [chain] at h
    cases hp : (L.nodes j).parent with
    | none =>
      obtain rfl : [j] = c := by simpa [hp] using h
      exact ⟨[], j, rfl, hp, by simp⟩
    | some p =>
      obtain ⟨c', hc', rfl⟩ := Option.map_eq_some'.mp (by simpa [hp] using h)
      obtain ⟨pre, r, rfl, hr, hpre⟩ := ih hc'
      refine ⟨j :: pre, r, rfl, hr, ?_⟩
      simpa [hp] using hpre

/-- `set_level` moves no `_parent`, so no chain. -/
@[simp] theorem chain_setLevel (j i fuel : Nat) (l : Level) :
    (L.setLevel j l).chain fuel i = L.chain fuel i := by
  induction fuel generalizing i with
  | zero => rfl
  | succ fuel ih => simp only [chain, setLevel_parent, ih]

/-- A new `_level` at the end of a chain decides the chain's level when every logger before it
has `UNKNOWN`, and changes nothing otherwise. -/
theorem effective_setLevel {g : Nat} {pre : List Nat} (hpre : ∀ x ∈ pre, x ≠ g) (l : Level) :
    (L.setLevel g l).effective (pre ++ [g]) =
      if ∀ x ∈ pre, (L.nodes x).level = .unknown then (if l = .unknown then .info else l)
      else L.effective (pre ++ [g]) := by
  induction pre with
  | nil => simp only [List.nil_append, effective_cons, setLevel_nodes, effective_nil]; simp
  | cons x pre ih =>
    have hx : (L.setLevel g l).nodes x = L.nodes x := by simp [setLevel_nodes, hpre x (by simp)]
    rw [List.cons_append, effective_cons, effective_cons, hx,
      ih fun y hy => hpre y (List.mem_cons_of_mem _ hy)]
    by_cases hu : (L.nodes x).level = .unknown <;> simp [hu]

end Loggers

namespace LogState

/-- `log_level()`: `static_cast<int>(_get_global_logger()->level())`, the recursion given one
call more than there are loggers. -/
def logLevel (k : LevelCodes) (S : LogState) : Option Nat :=
  (S.tree.level (S.tree.next + 1) S.global).map (Level.code k)

/-- `log_set_level(level)`: `_get_global_logger()->set_level(static_cast<Logger::Level>(level))`,
for a `level` that is one of the `LOG_LEVEL_*` values. -/
def logSetLevel (S : LogState) (level : Level) : LogState :=
  { S with tree := S.tree.setLevel S.global level }

variable {S : LogState}

/-- `log_set_level` is `set_level` on the global logger, which is live. -/
theorem step_setLevel_global (hS : S.Wf) (l : Level) :
    S.step (.setLevel S.global l) = some (S.logSetLevel l) := by
  simp only [step, Live, hS.shape.global_lt, hS.global_live, not_false_eq_true, and_self,
    if_true]
  rfl

end LogState

/-- The loggers without a parent that are live: the global logger alone. -/
theorem LogReachable.rooted {S : LogState} (h : LogReachable S) {j : Nat} (hj : S.Live j)
    (hroot : (S.tree.nodes j).parent = none) : j = S.global := by
  induction h generalizing j with
  | init => exact Nat.lt_one_iff.mp hj.1
  | @step S S' a hS hs ih =>
    rcases LogState.step_cases hs with ⟨self, cls, name, level, -, rfl⟩ | ⟨self, level, rfl⟩ |
      ⟨self, stream, rfl⟩ | ⟨level, env, rfl⟩
    · rcases hres : S.tree.descend (firstClass cls name) self level (components name) with
        ⟨L', r⟩
      rw [getChild_eq_descend, hres] at hj hroot
      obtain ⟨hlt, hroot₀⟩ := Loggers.descend_root hres hj.1 hroot
      exact ih ⟨hlt, hj.2⟩ hroot₀
    · exact ih hj (by simpa using hroot)
    · exact ih hj hroot
    · obtain ⟨hlt, hfree⟩ := hj
      simp only [LogState.setGlobalLogger_next, LogState.setGlobalLogger_freed, List.mem_cons,
        not_or] at hlt hfree
      rcases Nat.lt_succ_iff_lt_or_eq.mp hlt with hlt | rfl
      · rw [LogState.setGlobalLogger_old hlt] at hroot
        dsimp only at hroot
        split at hroot
        · cases hroot
        · exact absurd (ih ⟨hlt, hfree.2⟩ hroot) hfree.1
      · rfl

/-- **`log_set_level` reaches the loggers that inherit it.**  In every state the library can
reach, and for every level: `log_set_level` is a call of the library, and `log_level()` then
returns it (`INFO` for `UNKNOWN`); and from every live logger, whose chain of parents ends at
the global logger, `level()` then returns the new level when every logger before the global one
on the chain has `UNKNOWN`, and what it returned before otherwise. -/
theorem log_set_level_reaches_inheriting_loggers {S : LogState} (hS : LogReachable S)
    (k : LevelCodes) (l : Level) {i : Nat} (hi : S.Live i) :
    LogReachable (S.logSetLevel l) ∧
    (S.logSetLevel l).logLevel k = some ((if l = .unknown then .info else l).code k) ∧
    ∃ c, S.tree.chain (S.tree.next + 1) i = some c ∧ c.getLast? = some S.global ∧
      ∀ fuel, S.tree.next + 1 ≤ fuel →
        (S.logSetLevel l).tree.level fuel i =
          if ∀ x ∈ c.dropLast, (S.tree.nodes x).level = .unknown then
            some (if l = .unknown then .info else l)
          else S.tree.level fuel i := by
  have hW := hS.wf
  have hg := hW.shape.global_root
  have hglobal : S.tree.chain (S.tree.next + 1) S.global = some [S.global] := by
    simp [Loggers.chain, hg]
  refine ⟨.step hS (LogState.step_setLevel_global hW l), ?_, ?_⟩
  · rw [LogState.logLevel, LogState.logSetLevel, Loggers.level_of_chain
      (by simpa using hglobal), ← List.nil_append [S.global],
      Loggers.effective_setLevel (by simp)]
    simp
  obtain ⟨c, hc, hlive⟩ := hW.chain_live hi
  obtain ⟨pre, r, rfl, hr, hpre⟩ := Loggers.chain_last hc
  obtain rfl : r = S.global := hS.rooted (hlive r (by simp)) hr
  have hne : ∀ x ∈ pre, x ≠ S.global := fun x hx hxg => hpre x hx (hxg ▸ hg)
  refine ⟨pre ++ [S.global], hc, by simp, fun fuel hf => ?_⟩
  have hc' := Loggers.chain_mono hc hf
  rw [LogState.logSetLevel, Loggers.level_of_chain (by simpa using hc'),
    Loggers.level_of_chain hc', Loggers.effective_setLevel hne, List.dropLast_concat]
  split <;> rfl

/-- `log_set_level(LOG_LEVEL_DEBUG)` on `demoState`, with the level values 10, 20, 30, 40 and
50: "c", whose chain is "c" and the global logger, inherits `DEBUG`; "a::b" keeps the `WARN`
of "a". -/
theorem log_set_level_reaches_c_but_not_a_b :
    demoState.tree.level 5 3 = some .info ∧
    (demoState.logSetLevel .debug).tree.level 5 3 = some .debug ∧
    demoState.tree.level 5 2 = some .warn ∧
    (demoState.logSetLevel .debug).tree.level 5 2 = some .warn ∧
    ∀ i ∈ [2, 3],
      LogReachable (demoState.logSetLevel .debug) ∧
      (demoState.logSetLevel .debug).logLevel ⟨10, 20, 30, 40, 50⟩ =
        some ((if Level.debug = .unknown then .info else Level.debug).code ⟨10, 20, 30, 40, 50⟩) ∧
      ∃ c, demoState.tree.chain (demoState.tree.next + 1) i = some c ∧
        c.getLast? = some demoState.global ∧
        ∀ fuel, demoState.tree.next + 1 ≤ fuel →
          (demoState.logSetLevel .debug).tree.level fuel i =
            if ∀ x ∈ c.dropLast, (demoState.tree.nodes x).level = .unknown then
              some (if Level.debug = .unknown then .info else Level.debug)
            else demoState.tree.level fuel i :=
  ⟨by decide, by decide, by decide, by decide, fun i hi =>
    log_set_level_reaches_inheriting_loggers demoState_reachable ⟨10, 20, 30, 40, 50⟩ .debug
      ((by decide : ∀ i ∈ [2, 3], demoState.Live i) i hi)⟩

end Transport
