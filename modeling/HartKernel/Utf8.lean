/-!
# Reading UTF-8

Bytes are read one at a time. A byte starts a character or goes on with the unfinished one. Bytes
that spell no character are read as replacement characters, one for every run of bytes that began a
character and could not go on, and one for every byte that cannot begin a character. Main statement:
`decode_toUTF8`, the bytes of a text are read as that text.
-/

namespace HartKernel.Utf8

/-- The character that stands for bytes which spell none. -/
abbrev replacement : Char := '\ufffd'

/-- A character of which the first byte has been read. -/
structure Unfinished where
  /-- The value that the bytes so far spell. -/
  value : Nat
  /-- How many bytes are missing, six bits each. -/
  missing : Nat
  /-- The least value that is spelled with so many bytes. -/
  least : Nat
  deriving DecidableEq, Repr

namespace Unfinished

/-- The number of values that so many missing bytes can spell. -/
def span : Nat → Nat
  | 0 => 1
  | missing + 1 => span missing * 64

/-- Whether some character is spelled with bytes that begin like this. -/
def isPossible (u : Unfinished) : Bool :=
  let first := u.value * span u.missing
  let last := first + span u.missing - 1
  decide (u.least ≤ last ∧ first ≤ 0x10ffff ∧ ¬(0xd800 ≤ first ∧ last ≤ 0xdfff))

/-- Reads the first byte of a character. -/
def ofLead? (byte : UInt8) : Option Unfinished :=
  let b := byte.toNat
  if b < 0x80 then some { value := b, missing := 0, least := 0 }
  else if b < 0xc0 then none
  else if b < 0xe0 then some { value := b - 0xc0, missing := 1, least := 0x80 }
  else if b < 0xf0 then some { value := b - 0xe0, missing := 2, least := 0x800 }
  else if b < 0xf8 then some { value := b - 0xf0, missing := 3, least := 0x10000 }
  else none

/-- Reads another byte of the character. -/
def next? (u : Unfinished) (byte : UInt8) : Option Unfinished :=
  let b := byte.toNat
  if 0x80 ≤ b ∧ b < 0xc0 then
    some { u with value := u.value * 64 + (b - 0x80), missing := u.missing - 1 }
  else none

end Unfinished

/-- The characters that a byte completed, and the character that is unfinished after it. -/
abbrev Progress := List Char × Option Unfinished

/-- The progress made by bytes that may be a whole character. -/
def settle (u : Unfinished) : Progress :=
  if u.missing = 0 then ([Char.ofNat u.value], none) else ([], some u)

/-- The progress made by a byte that does not go on with a character. -/
def start (byte : UInt8) : Progress :=
  match (Unfinished.ofLead? byte).filter Unfinished.isPossible with
  | some u => settle u
  | none => ([replacement], none)

/-- The progress made by a byte. A byte that the unfinished character cannot go on with is read
anew. -/
def step : Option Unfinished → UInt8 → Progress
  | none, byte => start byte
  | some u, byte =>
    match (u.next? byte).filter Unfinished.isPossible with
    | some next => settle next
    | none => (replacement :: (start byte).1, (start byte).2)

/-- Reads bytes while a character may be unfinished. -/
def decodeFrom : Option Unfinished → List UInt8 → List Char
  | none, [] => []
  | some _, [] => [replacement]
  | unfinished, byte :: rest => (step unfinished byte).1 ++ decodeFrom (step unfinished byte).2 rest

/-- The text that some bytes spell. -/
def decode (bytes : List UInt8) : String :=
  String.ofList (decodeFrom none bytes)

theorem decodeFrom_cons (unfinished : Option Unfinished) (byte : UInt8) (rest : List UInt8) :
    decodeFrom unfinished (byte :: rest) =
      (step unfinished byte).1 ++ decodeFrom (step unfinished byte).2 rest := by
  cases unfinished <;> rfl

theorem Unfinished.span_pos (missing : Nat) : 0 < span missing := by
  induction missing with
  | zero => exact Nat.one_pos
  | succ missing ih => exact Nat.mul_pos ih (by decide)

theorem Unfinished.isPossible_of_div {u : Unfinished} {c : Char}
    (hvalue : u.value = c.toNat / span u.missing) (hleast : u.least ≤ c.toNat) :
    u.isPossible = true := by
  have hvalid : c.toNat < 0xd800 ∨ 0xdfff < c.toNat ∧ c.toNat < 0x110000 := c.valid
  have hpos : 0 < span u.missing := span_pos u.missing
  have hdiv := Nat.div_add_mod' c.toNat (span u.missing)
  have hmod := Nat.mod_lt c.toNat hpos
  simp only [isPossible, hvalue, decide_eq_true_eq]
  omega

open Unfinished (span)

theorem decodeFrom_lead {byte : UInt8} {u : Unfinished} {c : Char} (rest : List UInt8)
    (h : Unfinished.ofLead? byte = some u) (hvalue : u.value = c.toNat / span u.missing)
    (hleast : u.least ≤ c.toNat) :
    decodeFrom none (byte :: rest) = (settle u).1 ++ decodeFrom (settle u).2 rest := by
  rw [decodeFrom_cons, step, start, h, Option.filter_some,
    if_pos (Unfinished.isPossible_of_div hvalue hleast)]

theorem decodeFrom_next (c : Char) (missing least : Nat) (rest : List UInt8)
    (hleast : least ≤ c.toNat) :
    decodeFrom (settle ⟨c.toNat / span (missing + 1), missing + 1, least⟩).2
        (UInt8.ofNat (c.toNat / span missing % 64 + 128) :: rest) =
      (settle ⟨c.toNat / span missing, missing, least⟩).1 ++
        decodeFrom (settle ⟨c.toNat / span missing, missing, least⟩).2 rest := by
  have hbyte : (UInt8.ofNat (c.toNat / span missing % 64 + 128)).toNat =
      c.toNat / span missing % 64 + 128 :=
    UInt8.toNat_ofNat_of_lt (by show _ < 256; omega)
  have hvalue : c.toNat / span (missing + 1) * 64 + c.toNat / span missing % 64 =
      c.toNat / span missing := by
    rw [span, ← Nat.div_div_eq_div_mul]
    omega
  have hnext : (Unfinished.mk (c.toNat / span (missing + 1)) (missing + 1) least).next?
      (UInt8.ofNat (c.toNat / span missing % 64 + 128)) =
        some ⟨c.toNat / span missing, missing, least⟩ := by
    simp only [Unfinished.next?, hbyte]
    rw [if_pos (by omega), Nat.add_sub_cancel, hvalue, Nat.add_sub_cancel]
  have hunfinished : (settle ⟨c.toNat / span (missing + 1), missing + 1, least⟩).2 =
      some ⟨c.toNat / span (missing + 1), missing + 1, least⟩ := rfl
  rw [hunfinished, decodeFrom_cons, step, hnext, Option.filter_some,
    if_pos (Unfinished.isPossible_of_div rfl hleast)]

theorem decodeFrom_utf8EncodeChar (c : Char) (rest : List UInt8) :
    decodeFrom none (String.utf8EncodeChar c ++ rest) = c :: decodeFrom none rest := by
  have hvalid : c.toNat < 0xd800 ∨ 0xdfff < c.toNat ∧ c.toNat < 0x110000 := c.valid
  have hval : c.val.toNat = c.toNat := rfl
  have hwhole (least : Nat) : settle ⟨c.toNat / span 0, 0, least⟩ = ([c], none) := by
    simp [settle, span, Char.ofNat_toNat]
  have hpart (value missing least : Nat) : (settle ⟨value, missing + 1, least⟩).1 = [] := rfl
  have hbyte {n : Nat} (hn : n < 256) : (UInt8.ofNat n).toNat = n :=
    UInt8.toNat_ofNat_of_lt (by show n < 256; omega)
  have h0 : c.toNat % 64 = c.toNat / span 0 % 64 := by rw [span, Nat.div_one]
  have h1 : c.toNat / 64 = c.toNat / span 1 := rfl
  have h2 : c.toNat / 4096 = c.toNat / span 2 := rfl
  have h3 : c.toNat / 262144 = c.toNat / span 3 := rfl
  unfold String.utf8EncodeChar
  simp only [hval]
  split
  · next h =>
    have hlead : Unfinished.ofLead? (UInt8.ofNat c.toNat) = some ⟨c.toNat / span 0, 0, 0⟩ := by
      simp only [Unfinished.ofLead?]
      rw [hbyte (by omega), if_pos (by omega), span, Nat.div_one]
    rw [List.singleton_append, decodeFrom_lead rest hlead rfl (Nat.zero_le _), hwhole]
    rfl
  split
  · next hone h =>
    have hlead : Unfinished.ofLead? (UInt8.ofNat (c.toNat / 64 % 32 + 192)) =
        some ⟨c.toNat / span 1, 1, 0x80⟩ := by
      simp only [Unfinished.ofLead?]
      rw [hbyte (by omega), if_neg (by omega), if_neg (by omega), if_pos (by omega),
        Nat.add_sub_cancel, Nat.mod_eq_of_lt (by omega), h1]
    rw [h0, List.cons_append, decodeFrom_lead _ hlead rfl (show 0x80 ≤ c.toNat by omega), hpart,
      List.nil_append, List.cons_append, decodeFrom_next c 0 0x80 _ (by omega), hwhole]
    rfl
  split
  · next hone htwo h =>
    have hlead : Unfinished.ofLead? (UInt8.ofNat (c.toNat / 4096 % 16 + 224)) =
        some ⟨c.toNat / span 2, 2, 0x800⟩ := by
      simp only [Unfinished.ofLead?]
      rw [hbyte (by omega), if_neg (by omega), if_neg (by omega), if_neg (by omega),
        if_pos (by omega), Nat.add_sub_cancel, Nat.mod_eq_of_lt (by omega), h2]
    rw [h0, h1, List.cons_append, decodeFrom_lead _ hlead rfl (show 0x800 ≤ c.toNat by omega),
      hpart, List.nil_append,
      List.cons_append, decodeFrom_next c 1 0x800 _ (by omega), hpart, List.nil_append,
      List.cons_append, decodeFrom_next c 0 0x800 _ (by omega), hwhole]
    rfl
  · next hone htwo h =>
    have hlead : Unfinished.ofLead? (UInt8.ofNat (c.toNat / 262144 % 8 + 240)) =
        some ⟨c.toNat / span 3, 3, 0x10000⟩ := by
      simp only [Unfinished.ofLead?]
      rw [hbyte (by omega), if_neg (by omega), if_neg (by omega), if_neg (by omega),
        if_neg (by omega), if_pos (by omega), Nat.add_sub_cancel, Nat.mod_eq_of_lt (by omega), h3]
    rw [h0, h1, h2, List.cons_append,
      decodeFrom_lead _ hlead rfl (show 0x10000 ≤ c.toNat by omega), hpart, List.nil_append,
      List.cons_append, decodeFrom_next c 2 0x10000 _ (by omega), hpart, List.nil_append,
      List.cons_append, decodeFrom_next c 1 0x10000 _ (by omega), hpart, List.nil_append,
      List.cons_append, decodeFrom_next c 0 0x10000 _ (by omega), hwhole]
    rfl

theorem decode_toUTF8 (text : String) : decode text.toUTF8.data.toList = text := by
  have hchars (chars : List Char) :
      decodeFrom none (chars.flatMap String.utf8EncodeChar) = chars := by
    induction chars with
    | nil => rfl
    | cons c rest ih => rw [List.flatMap_cons, decodeFrom_utf8EncodeChar, ih]
  have hbytes : text.toUTF8.data.toList = text.toList.flatMap String.utf8EncodeChar := by
    rw [String.toUTF8_eq_toByteArray, ← String.utf8Encode_toList, List.utf8Encode]
    simp
  rw [decode, hbytes, hchars, String.ofList_toList]

end HartKernel.Utf8
