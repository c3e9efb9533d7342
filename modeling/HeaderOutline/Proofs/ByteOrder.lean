import HeaderOutline.Text.Utf8

/-! The order of texts is the order of their bytes. A greater number needs no fewer bytes, a longer encoding has
the greater first byte, and of two encodings of one length the greater has the greater byte where they
first differ. -/
namespace HeaderOutline.Text

def ByteBefore (s t : String) : Prop := utf8 s < utf8 t

def Ascends (encode : Nat → List UInt8) (limit : Nat) : Prop :=
  ∀ m n, m < n → n < limit → ∀ xs ys, encode m ++ xs < encode n ++ ys

def leadByte (mark v : Nat) : List UInt8 := [UInt8.ofNat (v + mark)]

def furtherByte (front : Nat → List UInt8) (v : Nat) : List UInt8 :=
  front (v / 64) ++ [UInt8.ofNat (v % 64 + 128)]

def twoBytes : Nat → List UInt8 := furtherByte (leadByte 192)

def threeBytes : Nat → List UInt8 := furtherByte (furtherByte (leadByte 224))

def fourBytes : Nat → List UInt8 := furtherByte (furtherByte (furtherByte (leadByte 240)))

def bytesOf (v : Nat) : List UInt8 :=
  if v ≤ 127 then leadByte 0 v
  else if v ≤ 2047 then twoBytes v
  else if v ≤ 65535 then threeBytes v
  else fourBytes v

theorem byteLess {a b : Nat} (less : a < b) (byte : b < 256) (xs ys : List UInt8) :
    UInt8.ofNat a :: xs < UInt8.ofNat b :: ys := by
  refine List.cons_lt_cons_iff.mpr (.inl ?_)
  rw [UInt8.lt_iff_toNat_lt]
  simp
  omega

theorem leadAscends {mark limit : Nat} (byte : limit + mark ≤ 256) : Ascends (leadByte mark) limit := by
  intro m n less below xs ys
  exact byteLess (by omega) (by omega) xs ys

theorem furtherAscends {front : Nat → List UInt8} {limit : Nat} (ascends : Ascends front limit) :
    Ascends (furtherByte front) (limit * 64) := by
  intro m n less below xs ys
  simp only [furtherByte, List.append_assoc]
  rcases Nat.lt_or_ge (m / 64) (n / 64) with before | notBefore
  · exact ascends _ _ before (by omega) _ _
  · have same : m / 64 = n / 64 := by omega
    rw [same]
    exact List.append_left_lt (byteLess (by omega) (by omega) xs ys)

theorem encodedBytes (c : Char) : String.utf8EncodeChar c = bytesOf c.val.toNat := by
  -- The leading byte has room for all that the bytes after it leave over.
  have valid : c.val.toNat < 0x110000 := c.valid.elim (by omega) And.right
  unfold String.utf8EncodeChar bytesOf
  generalize c.val.toNat = v at valid
  dsimp only
  split
  · rfl
  · split
    · have two : v / 64 % 32 = v / 64 := by omega
      rw [two]
      rfl
    · have middle : v / 4096 % 64 = v / 64 / 64 % 64 := by omega
      split
      · have three : v / 4096 % 16 = v / 64 / 64 := by omega
        rw [three]
        rfl
      · have four : v / 262144 % 8 = v / 64 / 64 / 64 := by omega
        rw [four, middle]
        rfl

theorem bytesAscend : Ascends bytesOf 0x110000 := by
  have one : Ascends (leadByte 0) 128 := leadAscends (by omega)
  have leadTwo : Ascends (leadByte 192) 32 := leadAscends (by omega)
  have leadThree : Ascends (leadByte 224) 16 := leadAscends (by omega)
  have leadFour : Ascends (leadByte 240) 8 := leadAscends (by omega)
  have two : Ascends twoBytes (32 * 64) := furtherAscends leadTwo
  have three : Ascends threeBytes (16 * 64 * 64) := furtherAscends (furtherAscends leadThree)
  have four : Ascends fourBytes (8 * 64 * 64 * 64) := furtherAscends (furtherAscends (furtherAscends leadFour))
  intro m n less below xs ys
  unfold bytesOf
  -- Either both are written by as many bytes, or the first bytes differ already.
  split
  · split
    · exact one m n less (by omega) xs ys
    · split
      · exact byteLess (by omega) (by omega) _ _
      · split
        · exact byteLess (by omega) (by omega) _ _
        · exact byteLess (by omega) (by omega) _ _
  · rw [if_neg (by omega : ¬n ≤ 127)]
    split
    · split
      · exact two m n less (by omega) xs ys
      · split
        · exact byteLess (by omega) (by omega) _ _
        · exact byteLess (by omega) (by omega) _ _
    · rw [if_neg (by omega : ¬n ≤ 2047)]
      split
      · split
        · exact three m n less (by omega) xs ys
        · exact byteLess (by omega) (by omega) _ _
      · rw [if_neg (by omega : ¬n ≤ 65535)]
        exact four m n less (by omega) xs ys

theorem encodingAscends {c d : Char} (less : c < d) (xs ys : List UInt8) :
    String.utf8EncodeChar c ++ xs < String.utf8EncodeChar d ++ ys := by
  have greater : c.val.toNat < d.val.toNat := less
  have valid : d.val.toNat < 0x110000 := d.valid.elim (by omega) And.right
  rw [encodedBytes, encodedBytes]
  exact bytesAscend _ _ greater valid xs ys

theorem utf8Characters (s : String) : utf8 s = s.toList.flatMap String.utf8EncodeChar := by
  unfold utf8
  rw [← String.utf8Encode_toList]
  simp [List.utf8Encode]

theorem charactersAscend {cs ds : List Char} (less : cs < ds) :
    cs.flatMap String.utf8EncodeChar < ds.flatMap String.utf8EncodeChar := by
  induction cs generalizing ds with
  | nil =>
      cases ds with
      | nil => exact absurd less (List.lt_irrefl [])
      | cons d ds =>
        obtain ⟨byte, bytes, encoded⟩ := List.exists_cons_of_ne_nil (String.utf8EncodeChar_ne_nil (c := d))
        rw [List.flatMap_cons, encoded]
        exact List.nil_lt_cons _ _
  | cons c cs ih =>
      cases ds with
      | nil => exact absurd less (List.not_lt_nil _)
      | cons d ds =>
          rw [List.flatMap_cons, List.flatMap_cons]
          rcases List.cons_lt_cons_iff.mp less with before | ⟨rfl, later⟩
          · exact encodingAscends before _ _
          · exact List.append_left_lt (ih later)

theorem byteOrder {s t : String} : ByteBefore s t ↔ s < t := by
  unfold ByteBefore
  rw [utf8Characters, utf8Characters, String.lt_iff]
  refine ⟨fun less => ?_, charactersAscend⟩
  by_cases before : s.toList < t.toList
  · exact before
  · have after : ¬t.toList < s.toList := fun greater => List.lt_asymm less (charactersAscend greater)
    rw [List.le_antisymm (List.not_lt.mp after) (List.not_lt.mp before)] at less
    exact absurd less (List.lt_irrefl _)

end HeaderOutline.Text
