import Mathlib.Logic.Function.Basic
import Mathlib.Data.List.Basic

/-
  Transport.Logging.Logger — the logger hierarchy and `Logger::get_child<T_Logger>`.

      auto sep_pos = name.find(namesep);                       // namesep = "::"
      do {
          if (name.empty() || sep_pos == 0) { logger = this; break; }
          base_name = sep_pos == npos ? name : name.substr(0, sep_pos);
          if (found in logger_cache) { logger = ...; break; }
          logger = new T_Logger(base_name, level, this);
          logger_cache[base_name] = std::unique_ptr<Logger>(logger);
      } while (0);
      if (sep_pos == npos || sep_pos + seqlen >= name.size()) return logger;
      return logger->get_child(name.substr(sep_pos + seqlen), level);

  Loggers live in a heap: a pointer's object, and the next fresh pointer, which `new` hands out.
  `T_Logger` is the class name of the object `new` builds; its constructor is taken to be
  `Logger(name, level, parent)`'s, which names the logger after its parent.  `get_child` recurses on
  a shorter name, and is defined by well-founded recursion on its length.

  Read over the pieces of the name between its "::"s, `get_child` follows the non-empty ones from
  `this`, taking a cached child or creating a missing one.  The recursive call passes no template
  argument, so it runs as `get_child<Logger>`: only the first component's logger can be created as
  a `T_Logger`, and none at all when the name starts with "::".

  Main results:
    * `getChild_eq_descend` — `get_child` is the walk along the non-empty components.
    * `get_child_spec` — it returns the logger the components lead to, creates exactly the missing
      ones, each a child of the one before, and a second call changes nothing.
    * `get_child_drops_logger_type` — `get_child<T>("a::b")` creates "a::b" as a plain `Logger`.
-/

namespace Transport

/-! ## §1. Loggers. -/

/-- `Logger::Level`. -/
inductive Level where
  | unknown
  | debug
  | info
  | warn
  | error
  | fatal
  deriving DecidableEq, Repr

/-- A logger object: `_name`, `_parent`, `_level`, `logger_cache`, and the class it was built as. -/
structure LoggerNode where
  name : List Char
  parent : Option Nat
  level : Level
  cache : List Char → Option Nat
  cls : String

/-- The heap of loggers: each pointer's object, and the next pointer `new` hands out. -/
structure Loggers where
  nodes : Nat → LoggerNode
  next : Nat

/-- `Logger::namesep`. -/
def namesep : List Char := [':', ':']

/-- `_name` as `Logger(name, level, parent)` sets it: `parent->_name + namesep + name` under a
parent with a name, `name` otherwise. -/
def ctorName (parent : Option LoggerNode) (name : List Char) : List Char :=
  match parent with
  | some p => if p.name.isEmpty then name else p.name ++ namesep ++ name
  | none => name

/-- `name.find(namesep)`: the index of the first "::", if there is one. -/
def findSep : List Char → Option Nat
  | ':' :: ':' :: _ => some 0
  | _ :: rest => (findSep rest).map (· + 1)
  | [] => none

namespace Loggers

/-- `logger = new T_Logger(base_name, level, this); logger_cache[base_name] = ...`: a fresh
logger of class `cls` at the next pointer, child of `self`, entered in `self`'s cache. -/
def newChild (L : Loggers) (cls : String) (baseName : List Char) (level : Level) (self : Nat) :
    Loggers × Nat :=
  (⟨Function.update
      (Function.update L.nodes self
        { L.nodes self with cache := Function.update (L.nodes self).cache baseName (some L.next) })
      L.next ⟨ctorName (some (L.nodes self)) baseName, some self, level, fun _ => none, cls⟩,
    L.next + 1⟩, L.next)

/-- The body of the `do { } while (0)` past its first test: the cached child named `baseName`,
or a new one. -/
def cachedChild (L : Loggers) (cls : String) (self : Nat) (baseName : List Char) (level : Level) :
    Loggers × Nat :=
  match (L.nodes self).cache baseName with
  | some child => (L, child)
  | none => L.newChild cls baseName level self

/-- The global logger, `new Logger(LogLevel::INFO)`, alone at pointer 0. -/
def root : Loggers := ⟨fun _ => ⟨[], none, .info, fun _ => none, "Logger"⟩, 1⟩

end Loggers

/-- `Logger::get_child<T_Logger>(name, level)` on the logger `self`, `cls` naming `T_Logger`.
The recursive call is `get_child<Logger>`. -/
def getChild (L : Loggers) (cls : String) (self : Nat) (name : List Char) (level : Level) :
    Loggers × Nat :=
  let sepPos := findSep name
  let (L, logger) :=
    if name.isEmpty || sepPos == some 0 then (L, self)
    else L.cachedChild cls self (match sepPos with | none => name | some p => name.take p) level
  match sepPos with
  | none => (L, logger)
  | some p =>
    if name.length ≤ p + 2 then (L, logger)
    else getChild L "Logger" logger (name.drop (p + 2)) level
termination_by name.length
decreasing_by simp only [List.length_drop]; omega

/-- `logging::get_logger<T_Logger>(name, level)`: `get_child` on the global logger `root`
(`level` defaults to `UNKNOWN` there). -/
def getLogger (L : Loggers) (root : Nat) (cls : String) (name : List Char) (level : Level) :
    Loggers × Nat :=
  getChild L cls root name level

/-! ## §2. Components. -/

/-- The pieces of a name between its "::"s, split left to right. -/
def splitSep : List Char → List (List Char)
  | ':' :: ':' :: rest => [] :: splitSep rest
  | c :: rest => (splitSep rest).modifyHead (c :: ·)
  | [] => [[]]

/-- The non-empty pieces of a name: the path `get_child` follows. -/
def components (name : List Char) : List (List Char) := (splitSep name).filter (· ≠ [])

/-- With no "::" in it, a name is one piece. -/
theorem splitSep_of_findSep_none {name : List Char} (h : findSep name = none) :
    splitSep name = [name] := by
  induction name using findSep.induct with
  | case1 rest => simp [findSep] at h
  | case2 c rest hne ih =>
    rw [findSep.eq_2 _ _ hne, Option.map_eq_none'] at h
    rw [splitSep.eq_2 _ _ hne, ih h]
    rfl
  | case3 => rfl

/-- The first "::" at `p` splits off the first piece, `name.substr(0, p)`; the others are the
pieces of `name.substr(p + 2)`. -/
theorem splitSep_of_findSep_some {name : List Char} {p : Nat} (h : findSep name = some p) :
    splitSep name = name.take p :: splitSep (name.drop (p + 2)) := by
  induction name using findSep.induct generalizing p with
  | case1 rest =>
    obtain rfl : 0 = p := Option.some.inj h
    rfl
  | case2 c rest hne ih =>
    rw [findSep.eq_2 _ _ hne, Option.map_eq_some'] at h
    obtain ⟨q, hq, rfl⟩ := h
    rw [splitSep.eq_2 _ _ hne, ih hq]
    rfl
  | case3 => simp [findSep] at h

/-- The first "::" lies inside the name. -/
theorem findSep_lt {name : List Char} {p : Nat} (h : findSep name = some p) :
    p + 2 ≤ name.length := by
  induction name using findSep.induct generalizing p with
  | case1 rest =>
    obtain rfl : 0 = p := Option.some.inj h
    simp
  | case2 c rest hne ih =>
    rw [findSep.eq_2 _ _ hne, Option.map_eq_some'] at h
    obtain ⟨q, hq, rfl⟩ := h
    simpa using ih hq
  | case3 => simp [findSep] at h

/-- After a first "::" at `p`, the name is not empty, and its first piece is empty exactly when
`p` is `0`. -/
theorem findSep_some_pieces {name : List Char} {p : Nat} (h : findSep name = some p) :
    name.isEmpty = false ∧ (name.take p = [] ↔ p = 0) := by
  have := findSep_lt h
  refine ⟨?_, ?_⟩
  · cases name <;> simp_all
  · rw [← List.length_eq_zero, List.length_take]; omega

/-! ## §3. The walk along the components. -/

namespace Loggers

/-- Following `comps` from `n` through the caches. -/
def follow (L : Loggers) (n : Nat) : List (List Char) → Option Nat
  | [] => some n
  | c :: cs => ((L.nodes n).cache c).bind fun m => L.follow m cs

/-- How many loggers on the path along `comps` from `n` are missing: every one from the first
absent child on. -/
def missing (L : Loggers) (n : Nat) : List (List Char) → Nat
  | [] => 0
  | c :: cs =>
    match (L.nodes n).cache c with
    | some m => L.missing m cs
    | none => cs.length + 1

/-- The walk along `comps` from `n`: each component's cached child, or a new one, of class `cls`
for the first component and a plain `Logger` below it. -/
def descend (L : Loggers) (cls : String) (n : Nat) (level : Level) :
    List (List Char) → Loggers × Nat
  | [] => (L, n)
  | c :: cs =>
    let child := L.cachedChild cls n c level
    child.1.descend "Logger" child.2 level cs

end Loggers

/-- The class `get_child<T_Logger>` gives its first component's logger: `T_Logger`, unless the
name is empty or starts with "::" — then `this` stands for that level, and the recursive call
makes every logger below a plain `Logger`. -/
def firstClass (cls : String) (name : List Char) : String :=
  if name.isEmpty || findSep name == some 0 then "Logger" else cls

/-- **`get_child` walks the components.**  On any heap, from any logger, `get_child<T>(name)` is
the walk along the non-empty pieces of `name` between its "::"s, left to right. -/
theorem getChild_eq_descend (L : Loggers) (cls : String) (self : Nat) (name : List Char)
    (level : Level) :
    getChild L cls self name level = L.descend (firstClass cls name) self level (components name) := by
  induction L, cls, self, name, level using getChild.induct with
  | case1 L cls self name level sepPos L₁ logger hbody hnone =>
    replace hnone : findSep name = none := hnone
    rw [getChild]
    rcases name with _ | ⟨c, rest⟩
    · rfl
    · simp [hnone, splitSep_of_findSep_none hnone, components, firstClass, Loggers.descend]
  | case2 L cls self name level sepPos L₁ logger hbody p hp hlen =>
    replace hp : findSep name = some p := hp
    obtain ⟨hne, htake⟩ := findSep_some_pieces hp
    rw [getChild]
    simp only [hp, hlen, if_true, splitSep_of_findSep_some hp, List.drop_eq_nil_of_le hlen,
      components, firstClass, hne, Bool.false_or, Option.some.injEq, beq_iff_eq]
    by_cases hp0 : p = 0
    · subst hp0; rfl
    · simp [hp0, htake, splitSep, Loggers.descend]
  | case3 L cls self name level sepPos L₁ logger hbody p hp hlen ih =>
    have hp' : findSep name = some p := hp
    obtain ⟨hne, htake⟩ := findSep_some_pieces hp'
    simp only [hp, hne, Bool.false_or, Option.some.injEq, beq_iff_eq, dite_eq_ite] at hbody
    rw [getChild]
    simp only [hp', hlen, if_false, splitSep_of_findSep_some hp', components, firstClass, hne,
      Bool.false_or, Option.some.injEq, beq_iff_eq, hbody, ih]
    by_cases hp0 : p = 0
    · simp only [hp0, if_true] at hbody ⊢
      obtain ⟨rfl, rfl⟩ := Prod.mk.inj hbody.symm
      simp [hp0]
    · simp only [hp0, if_false] at hbody ⊢
      simp [hp0, htake, Loggers.descend, hbody]

/-! ## §4. What the walk does to the heap. -/

namespace Loggers

/-- The heap `new` grows: every logger below `next` has its children below `next`. -/
def Valid (L : Loggers) : Prop :=
  ∀ p < L.next, ∀ k m, (L.nodes p).cache k = some m → m < L.next

/-- `L'` keeps every logger of `L`: its name, parent, level and class, and its cached children. -/
structure Extends (L L' : Loggers) : Prop where
  next_le : L.next ≤ L'.next
  name : ∀ j < L.next, (L'.nodes j).name = (L.nodes j).name
  parent : ∀ j < L.next, (L'.nodes j).parent = (L.nodes j).parent
  level : ∀ j < L.next, (L'.nodes j).level = (L.nodes j).level
  cls : ∀ j < L.next, (L'.nodes j).cls = (L.nodes j).cls
  cache : ∀ j < L.next, ∀ k m, (L.nodes j).cache k = some m → (L'.nodes j).cache k = some m

theorem Extends.refl (L : Loggers) : Extends L L :=
  ⟨le_rfl, fun _ _ => rfl, fun _ _ => rfl, fun _ _ => rfl, fun _ _ => rfl, fun _ _ _ _ h => h⟩

theorem Extends.trans {L₁ L₂ L₃ : Loggers} (h₁ : Extends L₁ L₂) (h₂ : Extends L₂ L₃) :
    Extends L₁ L₃ :=
  have h : ∀ j < L₁.next, j < L₂.next := fun _ hj => lt_of_lt_of_le hj h₁.next_le
  ⟨h₁.next_le.trans h₂.next_le, fun j hj => (h₂.name j (h j hj)).trans (h₁.name j hj),
    fun j hj => (h₂.parent j (h j hj)).trans (h₁.parent j hj),
    fun j hj => (h₂.level j (h j hj)).trans (h₁.level j hj),
    fun j hj => (h₂.cls j (h j hj)).trans (h₁.cls j hj),
    fun j hj k m hm => h₂.cache j (h j hj) k m (h₁.cache j hj k m hm)⟩

variable {L : Loggers} {cls : String} {n : Nat} {c : List Char} {level : Level}

@[simp] theorem newChild_next : (L.newChild cls c level n).1.next = L.next + 1 := rfl
@[simp] theorem newChild_ptr : (L.newChild cls c level n).2 = L.next := rfl

/-- The new logger: named after its parent, which is `self`, with an empty cache. -/
@[simp] theorem newChild_new :
    (L.newChild cls c level n).1.nodes L.next =
      ⟨ctorName (some (L.nodes n)) c, some n, level, fun _ => none, cls⟩ := by
  simp [newChild]

/-- Below `next`, `new` changes one cache entry: `self`'s, under `c`. -/
theorem newChild_nodes {j : Nat} (hj : j < L.next) :
    (L.newChild cls c level n).1.nodes j = { L.nodes j with
      cache := fun k => if j = n ∧ k = c then some L.next else (L.nodes j).cache k } := by
  show Function.update (Function.update L.nodes n _) L.next _ j = _
  rw [Function.update_noteq (Nat.ne_of_lt hj), Function.update_apply]
  split
  · subst j
    simp only [true_and]
    congr 1
    funext k
    exact Function.update_apply _ _ _ _
  · simp [*]

/-- A miss below `next`: the new logger is entered under `c` in its parent's cache, and every
logger of `L` is kept. -/
theorem newChild_extends (hn : n < L.next) (hmiss : (L.nodes n).cache c = none) :
    Extends L (L.newChild cls c level n).1 ∧
      ((L.newChild cls c level n).1.nodes n).cache c = some L.next := by
  refine ⟨⟨by simp, fun j hj => by rw [newChild_nodes hj], fun j hj => by rw [newChild_nodes hj],
    fun j hj => by rw [newChild_nodes hj], fun j hj => by rw [newChild_nodes hj],
    fun j hj k m h => ?_⟩, by simp [newChild_nodes hn]⟩
  rw [newChild_nodes hj]
  dsimp only
  split
  · obtain ⟨rfl, rfl⟩ := ‹_›
    rw [hmiss] at h
    cases h
  · exact h

/-- `new` keeps the heap valid. -/
theorem newChild_valid (hL : L.Valid) :
    (L.newChild cls c level n).1.Valid := by
  intro p hp k m h
  rw [newChild_next] at hp ⊢
  rcases Nat.lt_succ_iff_lt_or_eq.mp hp with hp | rfl
  · rw [newChild_nodes hp] at h
    dsimp only at h
    split at h
    · cases h; omega
    · have := hL p hp k m h; omega
  · simp at h

/-- A logger named like another names its children alike. -/
theorem ctorName_congr {a b : LoggerNode} (h : a.name = b.name) (c : List Char) :
    ctorName (some a) c = ctorName (some b) c := by
  simp [ctorName, h]

/-- The child `get_child` takes under `c`, from a logger below `next` in a valid heap: it is
entered in that logger's cache and lies below the new `next`, and the heap keeps every logger
and stays valid. -/
theorem cachedChild_spec (cls : String) (c : List Char) (level : Level) (hL : L.Valid)
    (hn : n < L.next) :
    Extends L (L.cachedChild cls n c level).1 ∧ (L.cachedChild cls n c level).1.Valid ∧
      (L.cachedChild cls n c level).2 < (L.cachedChild cls n c level).1.next ∧
      ((L.cachedChild cls n c level).1.nodes n).cache c = some (L.cachedChild cls n c level).2 := by
  unfold cachedChild
  split
  · rename_i m hm
    exact ⟨.refl L, hL, hL n hn c m hm, hm⟩
  · rename_i hmiss
    obtain ⟨hext, hcache⟩ : Extends L (L.newChild cls c level n).1 ∧ _ := newChild_extends hn hmiss
    exact ⟨hext, newChild_valid hL, by simp, hcache⟩

/-- A logger with an empty cache misses every component below it. -/
theorem missing_of_empty (h : ∀ k, (L.nodes n).cache k = none) (cs : List (List Char)) :
    L.missing n cs = cs.length := by
  cases cs with
  | nil => rfl
  | cons c cs => simp [missing, h]

/-- Where every component is cached, the walk follows them and changes nothing. -/
theorem descend_of_follow (cls : String) {comps : List (List Char)} {r : Nat}
    (h : L.follow n comps = some r) : L.descend cls n level comps = (L, r) := by
  induction comps generalizing cls n with
  | nil => cases h; rfl
  | cons c cs ih =>
    simp only [follow, Option.bind_eq_some] at h
    obtain ⟨m, hm, h⟩ := h
    simp only [descend, cachedChild, hm]
    exact ih "Logger" h

/-- The walk creates exactly the missing loggers: `next` moves on by their number. -/
theorem descend_next (cls : String) (comps : List (List Char)) :
    (L.descend cls n level comps).1.next = L.next + L.missing n comps := by
  induction comps generalizing L cls n with
  | nil => rfl
  | cons c cs ih =>
    simp only [descend, missing, cachedChild]
    split
    · exact ih "Logger"
    · rw [ih "Logger", missing_of_empty (by simp) cs, newChild_next]
      omega

variable {L' : Loggers} {r : Nat}

/-- **The walk.**  From a logger below `next` in a valid heap, the walk along `comps` keeps every
logger, leaves the heap valid, and ends at the logger the components lead to. -/
theorem descend_follow {cls : String} {comps : List (List Char)} (hL : L.Valid)
    (hn : n < L.next) (h : L.descend cls n level comps = (L', r)) :
    Extends L L' ∧ L'.Valid ∧ r < L'.next ∧ L'.follow n comps = some r := by
  induction comps generalizing L cls n with
  | nil => cases h; exact ⟨.refl _, hL, hn, rfl⟩
  | cons c cs ih =>
    obtain ⟨hext₁, hvalid₁, hm, hcache⟩ := cachedChild_spec cls c level hL hn
    obtain ⟨hext, hvalid, hr, hfollow⟩ := ih hvalid₁ hm h
    refine ⟨hext₁.trans hext, hvalid, hr, ?_⟩
    simp only [follow, hext.cache n (by have := hext₁.next_le; omega) c _ hcache, Option.some_bind,
      hfollow]

/-- **The loggers the walk creates.**  Each is a child of a logger it is cached under, by a
component of the path, named after it, with the walk's level; only the first can have the
walk's class, the others are plain `Logger`s. -/
theorem descend_created {cls : String} {comps : List (List Char)} (hL : L.Valid)
    (hn : n < L.next) (h : L.descend cls n level comps = (L', r)) :
    ∀ j, L.next ≤ j → j < L'.next → ∃ p c, c ∈ comps ∧ (L'.nodes j).parent = some p ∧
      (L'.nodes p).cache c = some j ∧ (L'.nodes j).name = ctorName (some (L'.nodes p)) c ∧
      (L'.nodes j).level = level ∧ ((L'.nodes j).cls = cls ∨ (L'.nodes j).cls = "Logger") ∧
      (L.next < j → (L'.nodes j).cls = "Logger") := by
  induction comps generalizing L cls n with
  | nil => cases h; intro j h₁ h₂; omega
  | cons c cs ih =>
    obtain ⟨hext₁, hvalid₁, hm, hcache⟩ := cachedChild_spec cls c level hL hn
    obtain ⟨hext, -, -, -⟩ := descend_follow hvalid₁ hm h
    intro j hj₁ hj₂
    by_cases hj : (L.cachedChild cls n c level).1.next ≤ j
    · obtain ⟨p, c', hc', hpar, hpc, hname, hlevel, hcls, -⟩ := ih hvalid₁ hm h j hj hj₂
      have hlogger : (L'.nodes j).cls = "Logger" := by simpa using hcls
      exact ⟨p, c', List.mem_cons_of_mem _ hc', hpar, hpc, hname, hlevel, .inr hlogger,
        fun _ => hlogger⟩
    · cases hmiss : (L.nodes n).cache c with
      | some m => simp [cachedChild, hmiss] at hj; omega
      | none =>
        simp only [cachedChild, hmiss, newChild_next, newChild_ptr] at hj hcache hext hext₁
        obtain rfl : j = L.next := by omega
        have hnew : ((L.newChild cls c level n).1.nodes L.next) =
            ⟨ctorName (some (L.nodes n)) c, some n, level, fun _ => none, cls⟩ := newChild_new
        have hlt : L.next < (L.newChild cls c level n).1.next := by simp
        refine ⟨n, c, List.mem_cons_self _ _, ?_, hext.cache n (by simp; omega) c _ hcache,
          ?_, ?_, .inl ?_, fun h => absurd h (lt_irrefl _)⟩
        · rw [hext.parent _ hlt, hnew]
        · rw [hext.name _ hlt, hnew, ctorName_congr ((hext₁.trans hext).name n hn)]
        · rw [hext.level _ hlt, hnew]
        · rw [hext.cls _ hlt, hnew]

/-- The global logger alone is a valid heap. -/
theorem root_valid : root.Valid := fun _ _ _ _ h => by simp [root] at h

end Loggers

/-! ## §5. `get_child`. -/

/-- **`get_child`.**  On a valid heap, from a logger below `next`, `get_child<T>(name, level)`
returns the logger the non-empty components of `name` lead to, and creates exactly the missing
ones: each a child of the logger it is cached under, by a component of `name`, named after that
logger, with `level`, and of class `T` or a plain `Logger` — only the first can be a `T`.  Every
logger there was is kept, and a second call with the same name, whatever its class and level,
changes nothing and returns the same logger. -/
theorem get_child_spec {L L' : Loggers} {self r : Nat} {cls : String} {name : List Char}
    {level : Level} (hL : L.Valid) (hself : self < L.next)
    (h : getChild L cls self name level = (L', r)) :
    L'.follow self (components name) = some r ∧
    L'.next = L.next + L.missing self (components name) ∧
    Loggers.Extends L L' ∧
    (∀ j, L.next ≤ j → j < L'.next → ∃ p c, c ∈ components name ∧ (L'.nodes j).parent = some p ∧
      (L'.nodes p).cache c = some j ∧ (L'.nodes j).name = ctorName (some (L'.nodes p)) c ∧
      (L'.nodes j).level = level ∧ ((L'.nodes j).cls = cls ∨ (L'.nodes j).cls = "Logger") ∧
      (L.next < j → (L'.nodes j).cls = "Logger")) ∧
    (∀ cls' level', getChild L' cls' self name level' = (L', r)) := by
  rw [getChild_eq_descend] at h
  obtain ⟨hext, -, -, hfollow⟩ := Loggers.descend_follow hL hself h
  have hnext : (L.descend (firstClass cls name) self level (components name)).1.next = _ :=
    Loggers.descend_next _ _
  rw [h] at hnext
  refine ⟨hfollow, hnext, hext, fun j h₁ h₂ => ?_, fun cls' level' => ?_⟩
  · obtain ⟨p, c, hc, hpar, hpc, hname, hlevel, hcls, hlog⟩ :=
      Loggers.descend_created hL hself h j h₁ h₂
    refine ⟨p, c, hc, hpar, hpc, hname, hlevel, ?_, hlog⟩
    rcases hcls with hcls | hcls
    · unfold firstClass at hcls
      split at hcls
      · exact .inr hcls
      · exact .inl hcls
    · exact .inr hcls
  · rw [getChild_eq_descend, Loggers.descend_of_follow _ hfollow]

/-- `get_child<FileLogger>("a::b", INFO)` on the global logger alone. -/
def rootAB : Loggers × Nat := getChild Loggers.root "FileLogger" 0 ['a', ':', ':', 'b'] .info

/-- What `get_child_spec` says of `rootAB`. -/
theorem get_child_spec_on_root :
    rootAB.1.follow 0 (components ['a', ':', ':', 'b']) = some rootAB.2 ∧
    rootAB.1.next = Loggers.root.next + Loggers.root.missing 0 (components ['a', ':', ':', 'b']) ∧
    Loggers.Extends Loggers.root rootAB.1 ∧
    (∀ j, Loggers.root.next ≤ j → j < rootAB.1.next → ∃ p c,
      c ∈ components ['a', ':', ':', 'b'] ∧ (rootAB.1.nodes j).parent = some p ∧
      (rootAB.1.nodes p).cache c = some j ∧
      (rootAB.1.nodes j).name = ctorName (some (rootAB.1.nodes p)) c ∧
      (rootAB.1.nodes j).level = .info ∧
      ((rootAB.1.nodes j).cls = "FileLogger" ∨ (rootAB.1.nodes j).cls = "Logger") ∧
      (Loggers.root.next < j → (rootAB.1.nodes j).cls = "Logger")) ∧
    (∀ cls' level', getChild rootAB.1 cls' 0 ['a', ':', ':', 'b'] level' = (rootAB.1, rootAB.2)) :=
  get_child_spec Loggers.root_valid (by decide) rfl

/-- **The leaf loses its class.**  `get_child<FileLogger>("a::b")` on the global logger alone
creates "a" at pointer 1 as a `FileLogger`, and returns "a::b", created at pointer 2 under it as
a plain `Logger`. -/
theorem get_child_drops_logger_type :
    rootAB.2 = 2 ∧ (rootAB.1.nodes 2).name = ['a', ':', ':', 'b'] ∧
      (rootAB.1.nodes 2).parent = some 1 ∧ (rootAB.1.nodes 1).cls = "FileLogger" ∧
      (rootAB.1.nodes 2).cls = "Logger" := by
  rw [rootAB, getChild_eq_descend]
  decide

end Transport
