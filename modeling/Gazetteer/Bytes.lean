/-!
# Numbers and texts as bytes

The byte layout of saved encoders: numbers of a fixed width with the least significant byte first,
and texts as their length followed by their UTF-8 bytes. Each `take` function reads what the writer
beside it wrote, from the front of a list of bytes, and returns the bytes that follow; it fails when
there are too few. `take_put` lemmas say so for whatever follows.
-/

set_option autoImplicit false

namespace Gazetteer.Bytes

/-! ## Numbers -/

/-- The `width` low bytes of a number, least significant first. -/
def ofNat : Nat → Nat → List UInt8
  | 0, _ => []
  | width + 1, n => UInt8.ofNat (n % 256) :: ofNat width (n / 256)

/-- The number whose bytes are given, least significant first. -/
def toNat : List UInt8 → Nat
  | [] => 0
  | b :: rest => b.toNat + 256 * toNat rest

/-- Takes a number of `width` bytes off the front. -/
def takeNat? : Nat → List UInt8 → Option (Nat × List UInt8)
  | 0, bytes => some (0, bytes)
  | _ + 1, [] => none
  | width + 1, b :: rest => (takeNat? width rest).map fun (n, after) => (b.toNat + 256 * n, after)

/-- How many numbers fit into `width` bytes. -/
def bound : Nat → Nat
  | 0 => 1
  | width + 1 => 256 * bound width

theorem takeNat?_ofNat_append {width n : Nat} (h : n < bound width) (rest : List UInt8) :
    takeNat? width (ofNat width n ++ rest) = some (n, rest) := by
  induction width generalizing n with
  | zero => simp [bound] at h; simp [ofNat, takeNat?, h]
  | succ width ih =>
    have hdiv : n / 256 < bound width := Nat.div_lt_of_lt_mul h
    have hbyte : (UInt8.ofNat (n % 256)).toNat = n % 256 :=
      UInt8.toNat_ofNat_of_lt' (Nat.mod_lt _ (by decide))
    simp [ofNat, takeNat?, ih hdiv, hbyte, Nat.mod_add_div]

/-! ## Texts -/

/-- The UTF-8 bytes of a text. -/
def ofText (s : String) : List UInt8 := s.toUTF8.data.toList

/-- The text whose UTF-8 bytes are given, if they are well-formed. -/
def toText? (bytes : List UInt8) : Option String := String.fromUTF8? ⟨bytes.toArray⟩

theorem toText?_ofText (s : String) : toText? (ofText s) = some s := by
  have h : (⟨(ofText s).toArray⟩ : ByteArray) = s.toByteArray := by
    simp [ofText, String.toUTF8]
  simp only [toText?, String.fromUTF8?, h, s.isValidUTF8, dite_true]
  rfl

/-- Takes a given number of bytes off the front. -/
def takeBytes? : Nat → List UInt8 → Option (List UInt8 × List UInt8)
  | 0, bytes => some ([], bytes)
  | _ + 1, [] => none
  | count + 1, b :: rest => (takeBytes? count rest).map fun (taken, after) => (b :: taken, after)

theorem takeBytes?_append (bytes rest : List UInt8) :
    takeBytes? bytes.length (bytes ++ rest) = some (bytes, rest) := by
  induction bytes with
  | nil => rfl
  | cons b bytes ih => simp [takeBytes?, ih]

/-- A text as its length in 8 bytes and its UTF-8 bytes. -/
def putText (s : String) : List UInt8 := ofNat 8 (ofText s).length ++ ofText s

/-- Takes a text off the front. -/
def takeText? (bytes : List UInt8) : Option (String × List UInt8) := do
  let (length, bytes) ← takeNat? 8 bytes
  let (taken, bytes) ← takeBytes? length bytes
  let text ← toText? taken
  return (text, bytes)

theorem takeText?_putText_append {s : String} (h : (ofText s).length < bound 8)
    (rest : List UInt8) : takeText? (putText s ++ rest) = some (s, rest) := by
  simp [takeText?, putText, takeNat?_ofNat_append h, takeBytes?_append, toText?_ofText]

end Gazetteer.Bytes
