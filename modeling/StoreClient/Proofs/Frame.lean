import Mathlib
import StoreClient.Frame

/-!
# Frames on the wire

The bytes of a frame say where it ends: a byte sequence begins with the bytes of at most one frame
(`bytes_append_inj`), so that a sequence of frames is known from their bytes
(`eq_append_of_flatMap_bytes`), and reading one off the front gives it back with the number of its
bytes (`decode?_bytes_append`). All of this is for frames whose length fits the prefix (`Fits`),
which are the ones that can be encoded (`encode_eq_ok_iff`).
-/

namespace StoreClient

/-- Four bytes are the big-endian digits of the number that they spell. -/
lemma Bytes.ofNatBigEndian_toNatBigEndian {b : Bytes} (len : b.length = 4) :
    ofNatBigEndian (toNatBigEndian b) = b := by
  obtain ⟨b0, b1, b2, b3, rfl⟩ : ∃ b0 b1 b2 b3, b = [b0, b1, b2, b3] := by
    match b, len with
    | [b0, b1, b2, b3], _ => exact ⟨b0, b1, b2, b3, rfl⟩
  have h0 := b0.toNat_lt
  have h1 := b1.toNat_lt
  have h2 := b2.toNat_lt
  have h3 := b3.toNat_lt
  simp only [toNatBigEndian, ofNatBigEndian, List.foldl_cons, List.foldl_nil, List.cons.injEq,
    and_true]
  refine ⟨?_, ?_, ?_, ?_⟩ <;> apply UInt8.toNat_inj.1 <;> simp only [UInt8.toNat_ofNat'] <;> omega

/-- Four bytes spell a number below 2^32. -/
lemma Bytes.toNatBigEndian_lt {b : Bytes} (len : b.length = 4) : toNatBigEndian b < 2 ^ 32 := by
  match b, len with
  | [b0, b1, b2, b3], _ =>
    have h0 := b0.toNat_lt
    have h1 := b1.toNat_lt
    have h2 := b2.toNat_lt
    have h3 := b3.toNat_lt
    simp only [toNatBigEndian, List.foldl_cons, List.foldl_nil]
    omega

namespace Frame

/-- The length of the frame fits the prefix. -/
def Fits (f : Frame) : Prop := f.declaredLength ≤ maxDeclared

instance (f : Frame) : Decidable f.Fits := inferInstanceAs (Decidable (_ ≤ _))

/-- A frame that cannot be encoded is a format fault. -/
lemma encode_error {f : Frame} {fault : Fault} (e : f.encode = .error fault) :
    ∃ cause, fault = .format cause := by
  unfold encode at e
  split at e
  · cases e
  · exact ⟨_, (Except.error.inj e).symm⟩

/-- A frame can be encoded exactly when it fits, and then as its bytes. -/
lemma encode_eq_ok_iff {f : Frame} {b : Bytes} : f.encode = .ok b ↔ f.Fits ∧ b = f.bytes := by
  unfold encode Fits
  split
  · rename_i fits
    simp [fits, eq_comm]
  · rename_i fits
    simp [fits]

/-- A frame takes as many bytes as its size says. -/
lemma length_bytes (f : Frame) : f.bytes.length = f.size := by
  simp [bytes, size, prefixSize, declaredLength, Bytes.ofNatBigEndian]
  omega

/-- Every frame takes some bytes. -/
lemma bytes_ne_nil (f : Frame) : f.bytes ≠ [] := by simp [bytes, Bytes.ofNatBigEndian]

/-- The frame at the front of a buffer that begins with its bytes. -/
lemma decode?_bytes_append {f : Frame} (fits : f.Fits) (rest : Bytes) :
    decode? (f.bytes ++ rest) = .ok (some (f, f.size)) := by
  have declared : f.declaredLength = f.payload.length + 1 := Nat.add_comm 1 _
  have front : (f.bytes ++ rest).take prefixSize = Bytes.ofNatBigEndian f.declaredLength := rfl
  have behind : (f.bytes ++ rest).drop prefixSize = (f.tag :: f.payload) ++ rest := rfl
  have number : Bytes.toNatBigEndian (Bytes.ofNatBigEndian f.declaredLength) = f.declaredLength :=
    Bytes.toNatBigEndian_ofNatBigEndian (Nat.lt_succ_of_le fits)
  have long : f.size ≤ (f.bytes ++ rest).length := by
    rw [List.length_append, length_bytes]
    exact Nat.le_add_right _ _
  have body : ((f.tag :: f.payload) ++ rest).take f.declaredLength = f.tag :: f.payload :=
    List.take_left' declared.symm
  unfold size at long
  unfold decode?
  simp only [front, behind, number, body]
  rw [if_neg (by omega), if_neg (by omega), if_neg (by omega)]
  rfl

/-- A byte sequence begins with the bytes of at most one frame. -/
lemma bytes_append_inj {f g : Frame} {a b : Bytes} (ff : f.Fits) (gf : g.Fits)
    (e : f.bytes ++ a = g.bytes ++ b) : f = g ∧ a = b := by
  have small {h : Frame} (fits : h.Fits) : h.declaredLength < 2 ^ 32 := by
    unfold Fits maxDeclared at fits
    omega
  simp only [bytes, List.append_assoc, List.cons_append] at e
  obtain ⟨eLen, eRest⟩ := List.append_inj e (by simp)
  have sameLength : f.declaredLength = g.declaredLength := by
    rw [← Bytes.toNatBigEndian_ofNatBigEndian (small ff), eLen,
      Bytes.toNatBigEndian_ofNatBigEndian (small gf)]
  obtain ⟨eTag, eBody⟩ := List.cons.inj eRest
  have samePayload : f.payload.length = g.payload.length := by
    unfold declaredLength at sameLength
    omega
  obtain ⟨ePayload, eTail⟩ := List.append_inj eBody samePayload
  refine ⟨?_, eTail⟩
  cases f
  cases g
  simp_all

/-- Frames whose bytes are the beginning of the bytes of others are the first of those. -/
lemma eq_append_of_flatMap_bytes {fs gs : List Frame} {rest : Bytes} (ff : ∀ f ∈ fs, f.Fits)
    (gf : ∀ g ∈ gs, g.Fits) (e : fs.flatMap bytes ++ rest = gs.flatMap bytes) :
    ∃ hs, gs = fs ++ hs ∧ rest = hs.flatMap bytes := by
  induction fs generalizing gs with
  | nil => exact ⟨gs, rfl, e⟩
  | cons f fs ih =>
    cases gs with
    | nil => simp [f.bytes_ne_nil] at e
    | cons g gs =>
      simp only [List.flatMap_cons, List.append_assoc] at e
      obtain ⟨rfl, e'⟩ := bytes_append_inj (ff f (by simp)) (gf g (by simp)) e
      obtain ⟨hs, rfl, rfl⟩ :=
        ih (fun x hx => ff x (by simp [hx])) (fun x hx => gf x (by simp [hx])) e'
      exact ⟨hs, rfl, rfl⟩

end Frame

end StoreClient
