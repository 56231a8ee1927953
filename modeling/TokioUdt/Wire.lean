import Mathlib

/-!
# tokio-udt: bytes, fixed-width integers and the ways a decoder can fail

The packet codec of `control_packet.rs` works on `&[u8]` and `Vec<u8>`, both
modelled as `List UInt8`.  Three things of the Rust standard library it relies
on are modelled here once.

* `to_be_bytes` / `from_be_bytes` of `u16`, `u32` and `i32`: all go through one
  big-endian value `beValue` and its inverse `beBytes`, so every round trip is
  the single arithmetic fact `beValue_beBytes`.
* Slicing `raw[a..b]`, `raw[a..]` and `try_into().unwrap()`: these panic out of
  range.  A panic is `Fault.panic`, an `Err` of the code's `Result` is
  `Fault.io`, so a decoder returns `Except Fault _`.
* The closure `get_u32(idx)` shared by the CIF decoders.

**Results.**  `beValue_beBytes`; the readers `u16At`, `u32At`, `i32At` (one
reader `beAt` of a given width) read back what the writers wrote at any offset
of a concatenation (`u32At_append_of_le`, `u32At_u32ToBeBytes`); `get_u32(idx)`
is the 4-byte reader at offset `idx * 4` (`getU32_eq_u32At`).
-/

namespace TokioUdt

/-- The `io::ErrorKind`s the modelled code raises: `InvalidData` from the
decoders, `InvalidInput` from `_bind_and_connect`; `other` stands for every kind
the modelled code never raises itself. -/
inductive ErrorKind
  | invalidData
  | invalidInput
  | other
deriving DecidableEq, Repr

/-- `io::Error::new(kind, message)`. -/
structure IoError where
  kind : ErrorKind
  message : String
deriving DecidableEq, Repr

/-- How a call ends without a value: an `Err` of its `Result`, or a panic. -/
inductive Fault
  | io (e : IoError)
  | panic
deriving DecidableEq, Repr

/-- `Err(Error::new(ErrorKind::InvalidData, message))`. -/
def invalidData {α : Type} (message : String) : Except Fault α :=
  .error (.io ⟨.invalidData, message⟩)

@[simp] theorem except_ok_bind {ε β γ : Type} (b : β) (f : β → Except ε γ) :
    (Except.ok b >>= f) = f b := rfl

@[simp] theorem except_error_bind {ε β γ : Type} (e : ε) (f : β → Except ε γ) :
    (Except.error e >>= f) = .error e := rfl

@[simp] theorem except_pure {ε β : Type} (b : β) : (pure b : Except ε β) = .ok b := rfl

@[simp] theorem except_mapError_ok {ε ε' β : Type} (f : ε → ε') (b : β) :
    (Except.ok b : Except ε β).mapError f = .ok b := rfl

/-- A `do` block that returned a value ran its first computation to a value. -/
theorem except_bind_eq_ok {ε β γ : Type} {x : Except ε β} {f : β → Except ε γ} {c : γ}
    (h : (x >>= f) = .ok c) : ∃ b, x = .ok b ∧ f b = .ok c := by
  cases x with
  | error e => cases h
  | ok b => exact ⟨b, rfl, h⟩

/-- `filter_map(..).collect()` with a closure that returns a value on every
element: the loop of `List.filterMapM` collects `filterMap g`. -/
theorem filterMapM_loop_eq_ok {ε β γ : Type} {f : β → Except ε (Option γ)}
    {g : β → Option γ} :
    ∀ (l : List β) (acc : List γ), (∀ x ∈ l, f x = .ok (g x)) →
      List.filterMapM.loop f l acc = .ok (acc.reverse ++ l.filterMap g)
  | [], acc, _ => by simp [List.filterMapM.loop]
  | x :: l, acc, hf => by
      have hx := hf x (List.mem_cons_self x l)
      have ih := fun acc => filterMapM_loop_eq_ok l acc (fun y hy => hf y (List.mem_cons_of_mem x hy))
      cases hg : g x with
      | none =>
          simp [List.filterMapM.loop, hx, hg, ih]
      | some c =>
          simp [List.filterMapM.loop, hx, hg, ih]

theorem filterMapM_eq_ok {ε β γ : Type} {f : β → Except ε (Option γ)}
    {g : β → Option γ} {l : List β} (hf : ∀ x ∈ l, f x = .ok (g x)) :
    l.filterMapM f = .ok (l.filterMap g) := by
  simpa using filterMapM_loop_eq_ok l [] hf

/-- A Rust array `[u8; n]`. -/
structure Octets (n : Nat) where
  toList : List UInt8
  length_eq : toList.length = n
deriving DecidableEq, Repr

section Slices

/-- `raw[a..b]`, which panics unless `a ≤ b ≤ raw.len()`. -/
def slice (raw : List UInt8) (a b : Nat) : Except Fault (List UInt8) :=
  if a ≤ b ∧ b ≤ raw.length then .ok ((raw.drop a).take (b - a)) else .error .panic

/-- `raw[a..]`, which panics unless `a ≤ raw.len()`. -/
def sliceFrom (raw : List UInt8) (a : Nat) : Except Fault (List UInt8) :=
  if a ≤ raw.length then .ok (raw.drop a) else .error .panic

/-- `s.try_into().unwrap()` into `[u8; n]`, which panics unless `s.len() = n`. -/
def tryIntoOctets (n : Nat) (s : List UInt8) : Except Fault (Octets n) :=
  if h : s.length = n then .ok ⟨s, h⟩ else .error .panic

theorem slice_eq_ok {raw : List UInt8} {a b : Nat}
    (hab : a ≤ b) (hb : b ≤ raw.length) :
    slice raw a b = .ok ((raw.drop a).take (b - a)) := by
  simp [slice, hab, hb]

theorem slice_eq_panic {raw : List UInt8} {a b : Nat}
    (h : ¬ (a ≤ b ∧ b ≤ raw.length)) :
    slice raw a b = .error .panic := by
  simp only [slice, h, if_false]

/-- A slice that returned `s` returned the bytes `a..b`. -/
theorem eq_of_slice_eq_ok {raw s : List UInt8} {a b : Nat} (h : slice raw a b = .ok s) :
    s = (raw.drop a).take (b - a) := by
  unfold slice at h
  split at h
  · exact (Except.ok.inj h).symm
  · cases h

theorem le_length_of_slice_eq_ok {raw s : List UInt8} {a b : Nat} (h : slice raw a b = .ok s) :
    a ≤ b ∧ b ≤ raw.length := by
  unfold slice at h
  split at h
  · assumption
  · cases h

theorem eq_of_sliceFrom_eq_ok {raw s : List UInt8} {a : Nat} (h : sliceFrom raw a = .ok s) :
    s = raw.drop a := by
  unfold sliceFrom at h
  split at h
  · exact (Except.ok.inj h).symm
  · cases h

theorem toList_of_tryIntoOctets_eq_ok {n : Nat} {s : List UInt8} {o : Octets n}
    (h : tryIntoOctets n s = .ok o) : o.toList = s := by
  unfold tryIntoOctets at h
  split at h
  · cases h
    rfl
  · cases h

/-- A slice past a prefix is a slice of the rest. -/
theorem slice_append_of_le (xs ys : List UInt8) {a b : Nat}
    (ha : xs.length ≤ a) (hab : a ≤ b) :
    slice (xs ++ ys) a b = slice ys (a - xs.length) (b - xs.length) := by
  have hdrop : (xs ++ ys).drop a = ys.drop (a - xs.length) := by
    simp [List.drop_append_eq_append_drop, List.drop_eq_nil_of_le ha]
  by_cases hb : b ≤ xs.length + ys.length
  · rw [slice_eq_ok hab (by simpa using hb), slice_eq_ok (by omega) (by omega), hdrop,
      show b - xs.length - (a - xs.length) = b - a by omega]
  · rw [slice_eq_panic (by simp; omega), slice_eq_panic (by omega)]

/-- A slice inside a prefix is a slice of the prefix. -/
theorem slice_append_of_le_length (xs ys : List UInt8) {a b : Nat} (h : b ≤ xs.length) :
    slice (xs ++ ys) a b = slice xs a b := by
  by_cases hab : a ≤ b
  · rw [slice_eq_ok hab (by simp; omega), slice_eq_ok hab h, List.drop_append_of_le_length (by omega),
      List.take_append_of_le_length (by simp; omega)]
  · rw [slice_eq_panic (by omega), slice_eq_panic (by omega)]

/-- `raw[xs.len()..]` of `xs ++ ys`. -/
theorem sliceFrom_append (xs ys : List UInt8) : sliceFrom (xs ++ ys) xs.length = .ok ys := by
  simp [sliceFrom]

/-- The leading `xs.length` bytes of `xs ++ ys`. -/
theorem slice_append_prefix (xs ys : List UInt8) :
    slice (xs ++ ys) 0 xs.length = .ok xs := by
  rw [slice_eq_ok (Nat.zero_le _) (by simp)]
  simp

/-- A slice that fits in `raw` has exactly `b - a` bytes. -/
theorem slice_length_of_le {raw : List UInt8} {a b : Nat} (hab : a ≤ b) (hb : b ≤ raw.length) :
    ∃ s, slice raw a b = .ok s ∧ s.length = b - a := by
  refine ⟨_, slice_eq_ok hab hb, ?_⟩
  simp only [List.length_take, List.length_drop]
  omega

@[simp] theorem tryIntoOctets_of_length {n : Nat} {s : List UInt8} (h : s.length = n) :
    tryIntoOctets n s = .ok ⟨s, h⟩ := by
  simp [tryIntoOctets, h]

end Slices

section BigEndian

/-- The value of a byte string read most significant byte first. -/
def beValue (bytes : List UInt8) : Nat :=
  bytes.foldl (fun acc b => acc * 256 + b.toNat) 0

/-- The `w` bytes of `n % 256 ^ w`, most significant first. -/
def beBytes : Nat → Nat → List UInt8
  | 0, _ => []
  | w + 1, n => beBytes w (n / 256) ++ [UInt8.ofNat n]

@[simp] theorem beBytes_length (w n : Nat) : (beBytes w n).length = w := by
  induction w generalizing n with
  | zero =>
      rfl
  | succ w ih =>
      simp [beBytes, ih]

@[simp] theorem toNat_uint8OfNat (n : Nat) : (UInt8.ofNat n).toNat = n % 256 :=
  BitVec.toNat_ofNat n 8

theorem beValue_append_singleton (xs : List UInt8) (b : UInt8) :
    beValue (xs ++ [b]) = beValue xs * 256 + b.toNat := by
  simp [beValue, List.foldl_append]

/-- Reading back `w` big-endian bytes gives the value modulo `256 ^ w`. -/
theorem beValue_beBytes (w n : Nat) : beValue (beBytes w n) = n % 256 ^ w := by
  induction w generalizing n with
  | zero =>
      simp [beValue, beBytes, Nat.mod_one]
  | succ w ih =>
      rw [beBytes, beValue_append_singleton, ih, toNat_uint8OfNat, Nat.pow_succ,
        Nat.mul_comm (256 ^ w) 256, Nat.mod_mul, Nat.mul_comm 256]
      exact Nat.add_comm _ _

theorem beValue_lt (bytes : List UInt8) : beValue bytes < 256 ^ bytes.length := by
  induction bytes using List.reverseRecOn with
  | nil =>
      simp [beValue]
  | append_singleton xs b ih =>
      have hb : b.toNat < 256 := b.toBitVec.isLt
      rw [beValue_append_singleton, List.length_append, List.length_singleton, Nat.pow_succ]
      omega

/-- Writing back the value of a byte string gives the bytes. -/
theorem beBytes_beValue (bytes : List UInt8) : beBytes bytes.length (beValue bytes) = bytes := by
  induction bytes using List.reverseRecOn with
  | nil =>
      rfl
  | append_singleton xs b ih =>
      have hb : b.toNat < 256 := b.toBitVec.isLt
      rw [List.length_append, List.length_singleton, beBytes, beValue_append_singleton,
        show (beValue xs * 256 + b.toNat) / 256 = beValue xs by omega, ih]
      congr 2
      apply UInt8.toNat.inj
      rw [toNat_uint8OfNat]
      omega

end BigEndian

section Words

/-- `u16::to_be_bytes`. -/
def u16ToBeBytes (x : UInt16) : List UInt8 :=
  beBytes 2 x.toNat

/-- `u16::from_be_bytes`. -/
def u16FromBeBytes (a : Octets 2) : UInt16 :=
  UInt16.ofNat (beValue a.toList)

/-- `u32::to_be_bytes`. -/
def u32ToBeBytes (x : UInt32) : List UInt8 :=
  beBytes 4 x.toNat

/-- `u32::from_be_bytes`. -/
def u32FromBeBytes (a : Octets 4) : UInt32 :=
  UInt32.ofNat (beValue a.toList)

@[simp] theorem u16ToBeBytes_length (x : UInt16) : (u16ToBeBytes x).length = 2 :=
  beBytes_length 2 _

@[simp] theorem u32ToBeBytes_length (x : UInt32) : (u32ToBeBytes x).length = 4 :=
  beBytes_length 4 _

theorem u16FromBeBytes_u16ToBeBytes (x : UInt16) (h) :
    u16FromBeBytes ⟨u16ToBeBytes x, h⟩ = x := by
  apply UInt16.toNat.inj
  have hx := x.toBitVec.isLt
  simp only [u16FromBeBytes, u16ToBeBytes, beValue_beBytes]
  simp [UInt16.ofNat, UInt16.toNat, BitVec.toNat_ofNat] at hx ⊢
  omega

theorem u32FromBeBytes_u32ToBeBytes (x : UInt32) (h) :
    u32FromBeBytes ⟨u32ToBeBytes x, h⟩ = x := by
  apply UInt32.toNat.inj
  have hx := x.toBitVec.isLt
  simp only [u32FromBeBytes, u32ToBeBytes, beValue_beBytes]
  simp [UInt32.ofNat, UInt32.toNat, BitVec.toNat_ofNat] at hx ⊢
  omega

theorem u16ToBeBytes_u16FromBeBytes (a : Octets 2) : u16ToBeBytes (u16FromBeBytes a) = a.toList := by
  have hlt := beValue_lt a.toList
  rw [a.length_eq] at hlt
  have hval : (u16FromBeBytes a).toNat = beValue a.toList := by
    simp only [u16FromBeBytes, UInt16.toNat, UInt16.ofNat, BitVec.toNat_ofNat]
    omega
  rw [u16ToBeBytes, hval]
  simpa only [a.length_eq] using beBytes_beValue a.toList

theorem u32ToBeBytes_u32FromBeBytes (a : Octets 4) : u32ToBeBytes (u32FromBeBytes a) = a.toList := by
  have hlt := beValue_lt a.toList
  rw [a.length_eq] at hlt
  have hval : (u32FromBeBytes a).toNat = beValue a.toList := by
    simp only [u32FromBeBytes, UInt32.toNat, UInt32.ofNat, BitVec.toNat_ofNat]
    omega
  rw [u32ToBeBytes, hval]
  simpa only [a.length_eq] using beBytes_beValue a.toList

/-- A Rust `i32`. -/
structure I32 where
  val : Int
  le_val : -2 ^ 31 ≤ val
  val_lt : val < 2 ^ 31
deriving DecidableEq, Repr

/-- The two's-complement bit pattern of an `i32`, whose bytes `i32::to_be_bytes` writes. -/
def I32.toBits (x : I32) : UInt32 :=
  UInt32.ofNat (x.val % 2 ^ 32).toNat

/-- The `i32` with a given two's-complement bit pattern. -/
def I32.ofBits (u : UInt32) : I32 :=
  if h : u.toNat < 2 ^ 31 then ⟨u.toNat, by omega, by omega⟩
  else ⟨u.toNat - 2 ^ 32, by have := u.toBitVec.isLt; simp [UInt32.toNat] at *; omega,
    by have := u.toBitVec.isLt; simp [UInt32.toNat] at *; omega⟩

/-- `i32::to_be_bytes`. -/
def i32ToBeBytes (x : I32) : List UInt8 :=
  u32ToBeBytes x.toBits

/-- `i32::from_be_bytes`. -/
def i32FromBeBytes (a : Octets 4) : I32 :=
  I32.ofBits (u32FromBeBytes a)

@[simp] theorem i32ToBeBytes_length (x : I32) : (i32ToBeBytes x).length = 4 :=
  u32ToBeBytes_length _

theorem I32.ofBits_toBits (x : I32) : I32.ofBits x.toBits = x := by
  have hbits : x.toBits.toNat = (x.val % 2 ^ 32).toNat := by
    simp only [I32.toBits, UInt32.toNat, UInt32.ofNat, BitVec.toNat_ofNat]
    omega
  have ⟨v, hlo, hhi⟩ := x
  simp only [I32.ofBits, hbits]
  split <;> simp only [I32.mk.injEq] <;> omega

theorem i32FromBeBytes_i32ToBeBytes (x : I32) (h) :
    i32FromBeBytes ⟨i32ToBeBytes x, h⟩ = x := by
  simp only [i32FromBeBytes, i32ToBeBytes, u32FromBeBytes_u32ToBeBytes, I32.ofBits_toBits]

theorem I32.toBits_ofBits (u : UInt32) : (I32.ofBits u).toBits = u := by
  have hu := u.toBitVec.isLt
  apply UInt32.toNat.inj
  simp only [I32.ofBits]
  split <;> simp only [I32.toBits, UInt32.toNat, UInt32.ofNat, BitVec.toNat_ofNat] at * <;> omega

theorem i32ToBeBytes_i32FromBeBytes (a : Octets 4) : i32ToBeBytes (i32FromBeBytes a) = a.toList := by
  rw [i32ToBeBytes, i32FromBeBytes, I32.toBits_ofBits, u32ToBeBytes_u32FromBeBytes]

end Words

section Reads

variable {α : Type}

/-- `T::from_be_bytes(raw[a..a + w].try_into().unwrap())`, for the `w`-byte integer
type `T` whose `from_be_bytes` is `dec`. -/
def beAt (w : Nat) (dec : Octets w → α) (raw : List UInt8) (a : Nat) : Except Fault α := do
  let s ← slice raw a (a + w)
  let o ← tryIntoOctets w s
  pure (dec o)

/-- `u16::from_be_bytes(raw[a..a + 2].try_into().unwrap())`. -/
def u16At (raw : List UInt8) (a : Nat) : Except Fault UInt16 :=
  beAt 2 u16FromBeBytes raw a

/-- `u32::from_be_bytes(raw[a..a + 4].try_into().unwrap())`. -/
def u32At (raw : List UInt8) (a : Nat) : Except Fault UInt32 :=
  beAt 4 u32FromBeBytes raw a

/-- `i32::from_be_bytes(raw[a..a + 4].try_into().unwrap())`. -/
def i32At (raw : List UInt8) (a : Nat) : Except Fault I32 :=
  beAt 4 i32FromBeBytes raw a

/-- The closure `get_u32` of the CIF decoders:
`u32::from_be_bytes(raw[(idx * 4)..(idx + 1) * 4].try_into().unwrap())`. -/
def getU32 (raw : List UInt8) (idx : Nat) : Except Fault UInt32 := do
  let s ← slice raw (idx * 4) ((idx + 1) * 4)
  let o ← tryIntoOctets 4 s
  pure (u32FromBeBytes o)

theorem getU32_eq_u32At (raw : List UInt8) (idx : Nat) :
    getU32 raw idx = u32At raw (idx * 4) := by
  simp only [getU32, u32At, beAt, Nat.succ_mul]

variable {w : Nat} {dec : Octets w → α}

theorem beAt_append_of_le (xs ys : List UInt8) {a : Nat} (h : xs.length ≤ a) :
    beAt w dec (xs ++ ys) a = beAt w dec ys (a - xs.length) := by
  simp only [beAt, slice_append_of_le xs ys h (Nat.le_add_right a w),
    show a + w - xs.length = a - xs.length + w by omega]

theorem beAt_append_of_le_length (xs ys : List UInt8) {a : Nat} (h : a + w ≤ xs.length) :
    beAt w dec (xs ++ ys) a = beAt w dec xs a := by
  simp only [beAt, slice_append_of_le_length xs ys h]

theorem beAt_append_prefix (bytes ys : List UInt8) (h : bytes.length = w) :
    beAt w dec (bytes ++ ys) 0 = .ok (dec ⟨bytes, h⟩) := by
  subst h
  simp only [beAt, Nat.zero_add, slice_append_prefix, except_ok_bind,
    tryIntoOctets_of_length rfl, except_pure]

/-- A read that fits in the buffer returns the value of its `w` bytes. -/
theorem beAt_eq_ok {raw : List UInt8} {a : Nat} (h : a + w ≤ raw.length) :
    beAt w dec raw a =
      .ok (dec ⟨(raw.drop a).take w, (List.length_take_of_le (by simp; omega))⟩) := by
  simp only [beAt, slice_eq_ok (Nat.le_add_right a w) h, Nat.add_sub_cancel_left, except_ok_bind,
    tryIntoOctets_of_length (List.length_take_of_le (by simp; omega) : ((raw.drop a).take w).length = w),
    except_pure]

theorem beAt_eq_ok_of_le {raw : List UInt8} {a : Nat} (h : a + w ≤ raw.length) :
    ∃ v, beAt w dec raw a = .ok v :=
  ⟨_, beAt_eq_ok h⟩

/-- A read past the end of the buffer panics. -/
theorem beAt_eq_panic {raw : List UInt8} {a : Nat} (h : raw.length < a + w) :
    beAt w dec raw a = .error .panic := by
  simp only [beAt, slice_eq_panic (show ¬ (a ≤ a + w ∧ a + w ≤ raw.length) by omega),
    except_error_bind]

/-- A read that returned `v` read the bytes the writer `enc` writes for `v`. -/
theorem beAt_eq_ok_bytes {enc : α → List UInt8} (henc : ∀ o, enc (dec o) = o.toList)
    {raw : List UInt8} {a : Nat} {v : α} (h : beAt w dec raw a = .ok v) :
    enc v = (raw.drop a).take w := by
  by_cases hle : a + w ≤ raw.length
  · rw [beAt_eq_ok hle] at h
    rw [← Except.ok.inj h, henc]
  · rw [beAt_eq_panic (by omega)] at h
    cases h

theorem u16At_eq_ok_bytes {raw : List UInt8} {a : Nat} {v : UInt16} (h : u16At raw a = .ok v) :
    u16ToBeBytes v = (raw.drop a).take 2 :=
  beAt_eq_ok_bytes u16ToBeBytes_u16FromBeBytes h

theorem u32At_eq_ok_bytes {raw : List UInt8} {a : Nat} {v : UInt32} (h : u32At raw a = .ok v) :
    u32ToBeBytes v = (raw.drop a).take 4 :=
  beAt_eq_ok_bytes u32ToBeBytes_u32FromBeBytes h

theorem i32At_eq_ok_bytes {raw : List UInt8} {a : Nat} {v : I32} (h : i32At raw a = .ok v) :
    i32ToBeBytes v = (raw.drop a).take 4 :=
  beAt_eq_ok_bytes i32ToBeBytes_i32FromBeBytes h

theorem u16At_eq_ok (raw : List UInt8) (a : Nat) (h : a + 2 ≤ raw.length) :
    ∃ v, u16At raw a = .ok v :=
  beAt_eq_ok_of_le h

theorem u32At_eq_ok (raw : List UInt8) (a : Nat) (h : a + 4 ≤ raw.length) :
    ∃ v, u32At raw a = .ok v :=
  beAt_eq_ok_of_le h

theorem u16At_append_of_le (xs ys : List UInt8) {a : Nat} (h : xs.length ≤ a) :
    u16At (xs ++ ys) a = u16At ys (a - xs.length) :=
  beAt_append_of_le xs ys h

theorem u32At_append_of_le (xs ys : List UInt8) {a : Nat} (h : xs.length ≤ a) :
    u32At (xs ++ ys) a = u32At ys (a - xs.length) :=
  beAt_append_of_le xs ys h

theorem i32At_append_of_le (xs ys : List UInt8) {a : Nat} (h : xs.length ≤ a) :
    i32At (xs ++ ys) a = i32At ys (a - xs.length) :=
  beAt_append_of_le xs ys h

@[simp] theorem u16At_u16ToBeBytes (x : UInt16) (ys : List UInt8) :
    u16At (u16ToBeBytes x ++ ys) 0 = .ok x := by
  rw [u16At, beAt_append_prefix _ _ (u16ToBeBytes_length x), u16FromBeBytes_u16ToBeBytes]

@[simp] theorem u32At_u32ToBeBytes (x : UInt32) (ys : List UInt8) :
    u32At (u32ToBeBytes x ++ ys) 0 = .ok x := by
  rw [u32At, beAt_append_prefix _ _ (u32ToBeBytes_length x), u32FromBeBytes_u32ToBeBytes]

@[simp] theorem u32At_u32ToBeBytes_self (x : UInt32) : u32At (u32ToBeBytes x) 0 = .ok x := by
  simpa using u32At_u32ToBeBytes x []

@[simp] theorem i32At_i32ToBeBytes (x : I32) (ys : List UInt8) :
    i32At (i32ToBeBytes x ++ ys) 0 = .ok x := by
  rw [i32At, beAt_append_prefix _ _ (i32ToBeBytes_length x), i32FromBeBytes_i32ToBeBytes]

end Reads

end TokioUdt
