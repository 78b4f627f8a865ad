import Mathlib.Tactic.SplitIfs
import ScriptedRobot.Text.Utf8

/-! # The order of texts

Texts are ordered by their code points. To order them by their UTF-8 bytes comes to the same
(`encodeUtf8_lt`): where two characters differ, the first bytes that differ are in the order of the
code points, and there always are such bytes. -/

namespace ScriptedRobot.Text

/-- The bytes of a text are those of its characters. -/
theorem encodeUtf8_eq (text : String) :
    encodeUtf8 text = text.toList.flatMap String.utf8EncodeChar := by
  unfold encodeUtf8 String.toUTF8
  rw [← String.utf8Encode_toList]
  exact List.toList_data_toByteArray

theorem textOf?_encodeUtf8 (text : String) : textOf? (encodeUtf8 text) = some text := by
  have bytes : (encodeUtf8 text).toByteArray = text.toByteArray := by
    rw [encodeUtf8_eq, ← String.utf8Encode_toList]
    rfl
  unfold textOf? String.fromUTF8?
  rw [bytes, dif_pos text.isValidUTF8]
  rfl

/-- Bytes that are less where they first differ from others, however both go on. -/
inductive Precedes : List UInt8 → List UInt8 → Prop where
  | here {first second : UInt8} {rest others : List UInt8} (less : first.toNat < second.toNat) :
      Precedes (first :: rest) (second :: others)
  | later {first second : UInt8} {rest others : List UInt8} (same : first.toNat = second.toNat)
      (precedes : Precedes rest others) : Precedes (first :: rest) (second :: others)

theorem precedes_cons {first second : UInt8} {rest others : List UInt8} :
    Precedes (first :: rest) (second :: others) ↔
      first.toNat < second.toNat ∨ first.toNat = second.toNat ∧ Precedes rest others := by
  constructor
  · rintro (less | ⟨same, precedes⟩)
    · exact .inl less
    · exact .inr ⟨same, precedes⟩
  · rintro (less | ⟨same, precedes⟩)
    · exact .here less
    · exact .later same precedes

theorem Precedes.append_lt {first second : List UInt8} (precedes : Precedes first second)
    (rest others : List UInt8) : first ++ rest < second ++ others := by
  induction precedes with
  | here less => exact List.Lex.rel (UInt8.lt_iff_toNat_lt.mpr less)
  | later same _ ih =>
      rw [UInt8.toNat_inj.mp same]
      exact List.Lex.cons ih

/-- Of characters with equally many bytes, the digits of the code points decide; otherwise the first
bytes do. -/
theorem precedes_utf8EncodeChar {first second : Char} (less : first < second) :
    Precedes (String.utf8EncodeChar first) (String.utf8EncodeChar second) := by
  have values : first.val.toNat < second.val.toNat := less
  have bounded : second.val.toNat < 0x110000 := by
    rcases second.valid with small | ⟨_, small⟩ <;> omega
  unfold String.utf8EncodeChar
  dsimp only
  generalize first.val.toNat = low at values ⊢
  generalize second.val.toNat = high at values bounded ⊢
  split_ifs <;>
    simp (disch := omega) only [precedes_cons, UInt8.toNat_ofNat', Nat.reducePow, Nat.mod_eq_of_lt] <;>
    omega

/-- Texts in order have their bytes in order. -/
theorem encodeUtf8_lt {first second : String} (less : first < second) :
    encodeUtf8 first < encodeUtf8 second := by
  have characters : first.toList < second.toList := less
  rw [encodeUtf8_eq, encodeUtf8_eq]
  generalize first.toList = first at characters ⊢
  generalize second.toList = second at characters ⊢
  induction characters with
  | @nil character rest =>
      obtain ⟨byte, bytes, encoded⟩ :=
        List.exists_cons_of_ne_nil (String.utf8EncodeChar_ne_nil (c := character))
      rw [List.flatMap_cons, encoded]
      exact List.Lex.nil
  | rel less => exact (precedes_utf8EncodeChar less).append_lt _ _
  | cons _ ih => exact List.append_left_lt ih

theorem pairwise_mergeSort (texts : List String) :
    (texts.mergeSort fun left right => decide (left ≤ right)).Pairwise (· ≤ ·) := by
  have ordered := @List.pairwise_mergeSort String (fun left right => decide (left ≤ right))
    (fun _ _ _ below next =>
      decide_eq_true (String.le_trans (of_decide_eq_true below) (of_decide_eq_true next)))
    (fun left right => by simpa using String.le_total left right) texts
  exact ordered.imp fun below => by simpa using below

end ScriptedRobot.Text
