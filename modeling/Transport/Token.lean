import Mathlib.Data.List.Basic

/-
  Transport.Token — `TransportToken` and its two addressed variants: equality and hashing.

  `operator==` is virtual, so `a == b` runs the body of `a`'s dynamic type:

      TransportToken               transport_ == other.transport_        (any other token)
      DatagramTransportToken       other is a DatagramTransportToken, same transport_, same
                                   addr_len, memcmp(&addr, &other.addr, addr_len) == 0
      UnixDatagramTransportToken   the same, over sockaddr_un

  An address is the raw bytes `memcmp` compares — 16 for `sockaddr_in`, 110 for
  `sockaddr_un` — with the `addr_len` that `recvfrom` reported, at most `sizeof addr`; each
  address structure carries those two facts as fields.  The hashes read the address as the
  code does: `sin_addr.s_addr` and `sin_port` as little-endian integers through the identity
  `std::hash` of integral types, and `sun_path` as a C string through `std::hash<std::string>`,
  which is left as a parameter.

  The base body ignores the other token's type, so a base token equals every token of its
  transport while the addressed ones equal only their own kind: `==` is reflexive and
  transitive, but symmetric only within a variant.  The hashes read address bytes that
  `memcmp` need not have compared, so they agree with `==` only when `addr_len` covers them.

  Main results:
    * `token_eq_refl`, `token_eq_trans`, `token_eq_symm_of_sameVariant`, `token_hash_of_eq`,
      assembled in `token_eq_laws`.
    * `token_eq_not_symm_or_hash` — a base token against a datagram token, and a datagram token
      with a short `addr_len`.
    * `set_sock_path_round_trip` — the path `set_sock_path` writes reads back as a C string.
-/

namespace Transport

/-! ## §1. Addresses and tokens. -/

/-- A `struct sockaddr_in` as the 16 bytes `memcmp` sees, with the `addr_len` of the token. -/
structure InetAddr where
  bytes : List UInt8
  len : Nat
  bytes_length : bytes.length = 16
  len_le : len ≤ 16
  deriving DecidableEq

/-- A `struct sockaddr_un` as its 110 bytes (2 of `sun_family`, 108 of `sun_path`), with the
`addr_len` of the token. -/
structure UnixAddr where
  bytes : List UInt8
  len : Nat
  bytes_length : bytes.length = 110
  len_le : len ≤ 110
  deriving DecidableEq

/-- A token, by its dynamic type; `transport` is the `_transport_base*` it holds. -/
inductive Token where
  | base (transport : Nat)
  | datagram (transport : Nat) (addr : InetAddr)
  | unixDatagram (transport : Nat) (addr : UnixAddr)
  deriving DecidableEq

/-- `transport_`. -/
def Token.transport : Token → Nat
  | .base t | .datagram t _ | .unixDatagram t _ => t

/-- Two tokens of the same dynamic type. -/
def Token.sameVariant : Token → Token → Bool
  | .base _, .base _ | .datagram .., .datagram .. | .unixDatagram .., .unixDatagram .. => true
  | _, _ => false

/-! ## §2. `operator==`. -/

/-- The body shared by the two addressed `operator==`s, once the `dynamic_cast` succeeded:
`transport_ != other_token->transport_ || addr_len != other_token->addr_len` is false, and
`memcmp(&addr, &other_token->addr, addr_len) == 0`. -/
def addressedEq (t t' : Nat) (bytes bytes' : List UInt8) (len len' : Nat) : Bool :=
  t == t' && len == len' && bytes.take len == bytes'.take len

/-- `DatagramTransportToken::operator==`, the other token being a datagram token. -/
def datagramEq (t : Nat) (a : InetAddr) (t' : Nat) (a' : InetAddr) : Bool :=
  addressedEq t t' a.bytes a'.bytes a.len a'.len

/-- `UnixDatagramTransportToken::operator==`, the other token being a Unix datagram token. -/
def unixDatagramEq (t : Nat) (a : UnixAddr) (t' : Nat) (a' : UnixAddr) : Bool :=
  addressedEq t t' a.bytes a'.bytes a.len a'.len

/-- `a == b`, dispatched on `a`'s dynamic type; a failed `dynamic_cast` gives `false`. -/
def Token.eq : Token → Token → Bool
  | .base t, b => t == b.transport
  | .datagram t a, .datagram t' a' => datagramEq t a t' a'
  | .datagram .., _ => false
  | .unixDatagram t a, .unixDatagram t' a' => unixDatagramEq t a t' a'
  | .unixDatagram .., _ => false

/-! ## §3. The hashes. -/

/-- `hash1 ^= (hash2 + 0x9e3779b9 + (hash1 << 6) + (hash1 >> 2))` on 64-bit `size_t`. -/
def hashCombine (seed v : UInt64) : UInt64 :=
  seed ^^^ (v + (0x9e3779b9 : UInt64) + (seed <<< (6 : UInt64)) + (seed >>> (2 : UInt64)))

/-- Bytes `[i, i + n)` of an address as a little-endian integer. -/
def readLE (bytes : List UInt8) (i n : Nat) : UInt64 :=
  ((bytes.drop i).take n).foldr (fun b acc => acc * 256 + b.toUInt64) 0

/-- `sun_path` as the C string `std::string(sun_path)` reads: up to its first NUL. -/
def sunPath (bytes : List UInt8) : List UInt8 := (bytes.drop 2).takeWhile (· ≠ 0)

/-- `std::hash<TransportToken>`: the pointer as `uintptr_t`, hashed by the identity. -/
def transportHash (t : Nat) : UInt64 := t.toUInt64

/-- `std::hash<DatagramTransportToken>`: the transport, then `sin_addr.s_addr` (bytes 4 to 8),
then `sin_port` (bytes 2 to 4). -/
def datagramHash (t : Nat) (a : InetAddr) : UInt64 :=
  hashCombine (hashCombine (transportHash t) (readLE a.bytes 4 4)) (readLE a.bytes 2 2)

/-- `std::hash<UnixDatagramTransportToken>`: the transport, then `std::hash<std::string>` of
`sun_path`, given as `hashStr`. -/
def unixDatagramHash (hashStr : List UInt8 → UInt64) (t : Nat) (a : UnixAddr) : UInt64 :=
  hashCombine (transportHash t) (hashStr (sunPath a.bytes))

/-- `std::hash` of a token, by its type. -/
def Token.hash (hashStr : List UInt8 → UInt64) : Token → UInt64
  | .base t => transportHash t
  | .datagram t a => datagramHash t a
  | .unixDatagram t a => unixDatagramHash hashStr t a

/-- The hashed address bytes are among those `==` compared: for a datagram token `addr_len`
reaches past `sin_addr`, for a Unix token the compared bytes hold the NUL ending `sun_path`. -/
def Token.HashCovered : Token → Prop
  | .base _ => True
  | .datagram _ a => 8 ≤ a.len
  | .unixDatagram _ a => 0 ∈ (a.bytes.drop 2).take (a.len - 2)

instance : DecidablePred Token.HashCovered
  | .base _ => inferInstanceAs (Decidable True)
  | .datagram _ a => inferInstanceAs (Decidable (8 ≤ a.len))
  | .unixDatagram _ a => inferInstanceAs (Decidable (0 ∈ (a.bytes.drop 2).take (a.len - 2)))

/-! ## §4. The laws of `==`. -/

theorem addressedEq_iff {t t' : Nat} {b b' : List UInt8} {l l' : Nat} :
    addressedEq t t' b b' l l' = true ↔ t = t' ∧ l = l' ∧ b.take l = b'.take l := by
  simp [addressedEq, and_assoc]

theorem addressedEq_trans {t₁ t₂ t₃ : Nat} {b₁ b₂ b₃ : List UInt8} {l₁ l₂ l₃ : Nat}
    (h₁ : addressedEq t₁ t₂ b₁ b₂ l₁ l₂ = true) (h₂ : addressedEq t₂ t₃ b₂ b₃ l₂ l₃ = true) :
    addressedEq t₁ t₃ b₁ b₃ l₁ l₃ = true := by
  obtain ⟨rfl, rfl, e₁⟩ := addressedEq_iff.mp h₁
  obtain ⟨rfl, rfl, e₂⟩ := addressedEq_iff.mp h₂
  exact addressedEq_iff.mpr ⟨rfl, rfl, e₁.trans e₂⟩

theorem addressedEq_comm (t t' : Nat) (b b' : List UInt8) (l l' : Nat) :
    addressedEq t t' b b' l l' = addressedEq t' t b' b l' l := by
  rw [Bool.eq_iff_iff, addressedEq_iff, addressedEq_iff]
  constructor <;> rintro ⟨rfl, rfl, h⟩ <;> exact ⟨rfl, rfl, h.symm⟩

theorem Token.eq_transport {a b : Token} (h : a.eq b = true) : a.transport = b.transport := by
  cases a <;> cases b <;> simp only [Token.eq, datagramEq, unixDatagramEq, beq_iff_eq,
    Bool.false_eq_true] at h <;> first | exact h | exact (addressedEq_iff.mp h).1

theorem token_eq_refl (a : Token) : a.eq a = true := by
  cases a <;> simp [Token.eq, Token.transport, datagramEq, unixDatagramEq, addressedEq_iff]

theorem token_eq_trans {a b c : Token} (h₁ : a.eq b = true) (h₂ : b.eq c = true) :
    a.eq c = true := by
  cases a with
  | base t =>
    simp only [Token.eq, beq_iff_eq] at h₁ ⊢
    exact h₁.trans (Token.eq_transport h₂)
  | datagram t x =>
    cases b <;> cases c <;> simp only [Token.eq, datagramEq, Bool.false_eq_true] at h₁ h₂ ⊢
    exact addressedEq_trans h₁ h₂
  | unixDatagram t x =>
    cases b <;> cases c <;> simp only [Token.eq, unixDatagramEq, Bool.false_eq_true] at h₁ h₂ ⊢
    exact addressedEq_trans h₁ h₂

theorem token_eq_symm_of_sameVariant {a b : Token} (h : a.sameVariant b = true) :
    a.eq b = b.eq a := by
  cases a <;> cases b <;> simp only [Token.sameVariant, Bool.false_eq_true] at h <;>
    simp only [Token.eq, Token.transport, datagramEq, unixDatagramEq]
  · exact Bool.beq_comm
  all_goals exact addressedEq_comm ..

/-- A failed `dynamic_cast`: an addressed token equals no token of another variant. -/
theorem Token.eq_of_addressed_of_not_sameVariant {a b : Token} (h : a.sameVariant b = false)
    (ha : ∀ t, a ≠ .base t) : a.eq b = false := by
  cases a <;> cases b <;> first | rfl | exact absurd rfl (ha _) | cases h

/-- Bytes `[i, i + n)` read inside a compared prefix of length `m`. -/
theorem drop_take_of_take_eq {l l' : List UInt8} {m i n : Nat} (h : l.take m = l'.take m)
    (hm : i + n ≤ m) : (l.drop i).take n = (l'.drop i).take n := by
  have key : ∀ x : List UInt8, (x.drop i).take n = ((x.take m).drop i).take n := by
    intro x
    rw [List.drop_take, List.take_take, Nat.min_eq_left (by omega)]
  rw [key l, key l', h]

/-- A C string ending inside a compared prefix is the same on both sides. -/
theorem takeWhile_eq_of_take_eq : ∀ {l l' : List UInt8} {k : Nat}, l.take k = l'.take k →
    0 ∈ l.take k → l.takeWhile (· ≠ 0) = l'.takeWhile (· ≠ 0)
  | [], _, k, _, h0 => by simp at h0
  | _ :: _, _, 0, _, h0 => by simp at h0
  | x :: xs, [], k + 1, h, _ => by simp at h
  | x :: xs, y :: ys, k + 1, h, h0 => by
    obtain ⟨rfl, hxs⟩ := List.cons_eq_cons.mp h
    by_cases hx : x = 0
    · simp [hx]
    · have h0' : 0 ∈ xs.take k := by
        simp only [List.take_succ_cons, List.mem_cons] at h0
        exact h0.resolve_left (Ne.symm hx)
      have hcons : ∀ l : List UInt8, (x :: l).takeWhile (· ≠ 0) = x :: l.takeWhile (· ≠ 0) :=
        fun _ => List.takeWhile_cons_of_pos (decide_eq_true hx)
      rw [hcons, hcons, takeWhile_eq_of_take_eq hxs h0']

theorem token_hash_of_eq (hashStr : List UInt8 → UInt64) {a b : Token}
    (hv : a.sameVariant b = true) (h : a.eq b = true) (hc : a.HashCovered) :
    a.hash hashStr = b.hash hashStr := by
  cases a <;> cases b <;> simp only [Token.sameVariant, Bool.false_eq_true] at hv
  case base.base => simp_all [Token.eq, Token.hash, Token.transport]
  case datagram.datagram t x t' x' =>
    obtain ⟨rfl, -, hb⟩ := addressedEq_iff.mp h
    simp only [Token.HashCovered] at hc
    simp only [Token.hash, datagramHash, readLE]
    rw [drop_take_of_take_eq hb (by omega : 4 + 4 ≤ _),
      drop_take_of_take_eq hb (by omega : 2 + 2 ≤ _)]
  case unixDatagram.unixDatagram t x t' x' =>
    obtain ⟨rfl, -, hb⟩ := addressedEq_iff.mp h
    simp only [Token.HashCovered] at hc
    have h2 : 2 ≤ x.len := by
      by_contra h2
      simp [show x.len - 2 = 0 by omega] at hc
    simp only [Token.hash, unixDatagramHash, sunPath]
    rw [takeWhile_eq_of_take_eq (drop_take_of_take_eq hb (by omega : 2 + (x.len - 2) ≤ _)) hc]

/-- **The laws `==` keeps.** For every hash of strings: `==` is reflexive and transitive and,
between tokens of one variant, symmetric; across variants a base token equals every token of
its transport while an addressed token equals none; and `a == b` gives equal hashes for tokens
of one variant whose hashed bytes `==` compared. -/
theorem token_eq_laws (hashStr : List UInt8 → UInt64) :
    (∀ a : Token, a.eq a = true) ∧
    (∀ a b c : Token, a.eq b = true → b.eq c = true → a.eq c = true) ∧
    (∀ a b : Token, a.sameVariant b = true → a.eq b = b.eq a) ∧
    (∀ t (b : Token), (Token.base t).eq b = (t == b.transport)) ∧
    (∀ a b : Token, a.sameVariant b = false → (∀ t, a ≠ .base t) → a.eq b = false) ∧
    (∀ a b : Token, a.sameVariant b = true → a.eq b = true → a.HashCovered →
      a.hash hashStr = b.hash hashStr) :=
  ⟨token_eq_refl, fun _ _ _ => token_eq_trans, fun _ _ => token_eq_symm_of_sameVariant,
    fun _ _ => rfl, fun _ _ => Token.eq_of_addressed_of_not_sameVariant,
    fun _ _ => token_hash_of_eq hashStr⟩

/-- **`==` is not symmetric, and does not fix the hash.** A base token equals a datagram token
of its transport, which does not equal it back; and two datagram tokens with `addr_len = 4`
whose `sin_addr` differ are equal, with different hashes whatever the string hash. -/
theorem token_eq_not_symm_or_hash :
    (Token.base 1).eq (.datagram 1 ⟨List.replicate 16 0, 16, rfl, le_rfl⟩) = true ∧
    (Token.datagram 1 ⟨List.replicate 16 0, 16, rfl, le_rfl⟩).eq (.base 1) = false ∧
    (Token.datagram 1
        ⟨[2, 0, 0, 80, 10, 0, 0, 1, 0, 0, 0, 0, 0, 0, 0, 0], 4, rfl, by decide⟩).eq
      (.datagram 1 ⟨[2, 0, 0, 80, 10, 0, 0, 2, 0, 0, 0, 0, 0, 0, 0, 0], 4, rfl, by decide⟩) =
        true ∧
    ∀ hashStr : List UInt8 → UInt64,
      (Token.datagram 1
          ⟨[2, 0, 0, 80, 10, 0, 0, 1, 0, 0, 0, 0, 0, 0, 0, 0], 4, rfl, by decide⟩).hash hashStr ≠
        (Token.datagram 1
          ⟨[2, 0, 0, 80, 10, 0, 0, 2, 0, 0, 0, 0, 0, 0, 0, 0], 4, rfl, by decide⟩).hash hashStr :=
  ⟨rfl, rfl, by decide, fun _ => by simp only [Token.hash]; decide⟩

/-! ## §5. `set_sock_path`. -/

/-- `strncpy(dst, src, n)`: the bytes of `src` before its first NUL, at most `n` of them, NULs
after them up to `n` bytes, and `dst` past `n` as it was. -/
def strncpy (dst src : List UInt8) (n : Nat) : List UInt8 :=
  let copied := (src.takeWhile (· ≠ 0)).take n
  copied ++ List.replicate (n - copied.length) 0 ++ dst.drop n

/-- `sun_path` after `strncpy(sun_path, path.data(), path.size())` and
`sun_path[path.size()] = '\0'`. -/
def writeSunPath (sunPathBytes path : List UInt8) : List UInt8 :=
  (strncpy sunPathBytes path path.length).set path.length 0

theorem strncpy_length {dst src : List UInt8} {n : Nat} (h : n ≤ dst.length) :
    (strncpy dst src n).length = dst.length := by
  have : ((src.takeWhile (· ≠ 0)).take n).length ≤ n := List.length_take_le _ _
  simp only [strncpy, List.length_append, List.length_replicate, List.length_drop]
  omega

theorem writeSunPath_length {sp path : List UInt8} (h : path.length ≤ sp.length) :
    (writeSunPath sp path).length = sp.length := by
  rw [writeSunPath, List.length_set, strncpy_length h]

/-- `UnixDatagramTransport::set_sock_path(path, result)`: when `path.size() + 1 >=
sizeof(result.sun_path)`, which is 108, it throws "socket path too long"; otherwise it writes the
path into `sun_path` and leaves `sun_family` alone. -/
def setSockPath (path : List UInt8) (addr : UnixAddr) : Except String UnixAddr :=
  if h : path.length + 1 ≥ 108 then .error "socket path too long"
  else
    .ok ⟨addr.bytes.take 2 ++ writeSunPath (addr.bytes.drop 2) path, addr.len, by
      rw [List.length_append, writeSunPath_length (by simp [addr.bytes_length]; omega)]
      simp [addr.bytes_length], addr.len_le⟩

/-- The path up to its first NUL is what a C string read of the written `sun_path` sees: the
copied bytes hold no NUL, and a NUL follows them. -/
theorem takeWhile_writeSunPath {sp path : List UInt8} (h : path.length < sp.length) :
    (writeSunPath sp path).takeWhile (· ≠ 0) = path.takeWhile (· ≠ 0) := by
  have hk : (path.takeWhile (· ≠ 0)).length ≤ path.length := (List.takeWhile_prefix _).length_le
  have hcopied : (path.takeWhile (· ≠ 0)).take path.length = path.takeWhile (· ≠ 0) :=
    List.take_of_length_le hk
  have hpre : ((path.takeWhile (· ≠ 0)) ++
      List.replicate (path.length - (path.takeWhile (· ≠ 0)).length) 0).length = path.length := by
    simp only [List.length_append, List.length_replicate]; omega
  unfold writeSunPath strncpy
  simp only [hcopied]
  rw [List.set_append_right _ _ (by omega), hpre, Nat.sub_self, List.drop_eq_getElem_cons h,
    List.set_cons_zero, List.append_assoc,
    List.takeWhile_append_of_pos fun a ha => by simpa using List.mem_takeWhile_imp ha]
  cases path.length - (path.takeWhile (· ≠ 0)).length <;> simp [List.replicate_succ]

/-- **`set_sock_path` round trip.**  For every path and every address it writes into,
`set_sock_path` succeeds exactly when the path has at most 106 bytes (one fewer than `sun_path`
has room for with its NUL), keeps `sun_family`, and leaves a `sun_path` that reads back as a C
string — as `std::hash<UnixDatagramTransportToken>`, `bind` and `unlink` read it — as the path
up to its first NUL byte, whatever the address held before. -/
theorem set_sock_path_round_trip (path : List UInt8) (addr : UnixAddr) :
    ((∃ a', setSockPath path addr = .ok a') ↔ path.length ≤ 106) ∧
      ∀ a', setSockPath path addr = .ok a' →
        a'.bytes.take 2 = addr.bytes.take 2 ∧ sunPath a'.bytes = path.takeWhile (· ≠ 0) := by
  have h2 : (addr.bytes.take 2).length = 2 := by simp [addr.bytes_length]
  unfold setSockPath
  split
  · exact ⟨⟨fun ⟨_, h⟩ => (nomatch h), fun _ => by omega⟩, fun _ h => (nomatch h)⟩
  · refine ⟨⟨fun _ => by omega, fun _ => ⟨_, rfl⟩⟩, fun a' h => ?_⟩
    obtain rfl := (Except.ok.inj h).symm
    refine ⟨List.take_left' h2, ?_⟩
    rw [sunPath, List.drop_left' h2]
    exact takeWhile_writeSunPath (by simp [addr.bytes_length]; omega)

/-- A `sockaddr_un` of zero bytes. -/
def zeroUnixAddr : UnixAddr := ⟨List.replicate 110 0, 110, List.length_replicate 110 0, le_rfl⟩

/-- The path "/t" written into a zeroed address reads back as "/t". -/
theorem set_sock_path_short_path :
    ∃ a', setSockPath [47, 116] zeroUnixAddr = .ok a' ∧ sunPath a'.bytes = [47, 116] :=
  have h := set_sock_path_round_trip [47, 116] zeroUnixAddr
  have ⟨a', ha'⟩ := h.1.2 (by decide)
  ⟨a', ha', (h.2 a' ha').2⟩

end Transport
