import PamCertauth.IntegrityPolicy
import PamCertauth.RadixNumerals

/-!
# Labels as text

The text form of an integrity label (`mac/text_codec.rs`): a confidentiality of zero, the
level in decimal, the categories in hexadecimal and, if there are any, the flags, with
colons between them. The reader looks at the level and the categories only.
-/

namespace PamCertauth.Mac

open RadixNumerals X509

inductive McFlag where
  | irelax
  | iinh
  | ccnr
  | ssi
  | silev
  deriving DecidableEq, Repr

def McFlag.asStr : McFlag → String
  | irelax => "irelax"
  | iinh => "iinh"
  | ccnr => "ccnr"
  | ssi => "ssi"
  | silev => "silev"

def encodeLabelText (l : IntegrityLabel) (flags : List McFlag) : String :=
  let base := "0:" ++ String.ofList (numeral 10 l.level.toInt) ++ ":"
    ++ String.ofList (numeral 16 l.categories.toNat)
  if flags = [] then base else base ++ ":" ++ String.intercalate "," (flags.map McFlag.asStr)

/-- Remove `0x` from the front as often as it stands there. -/
def trimStartHex : List Char → List Char
  | '0' :: 'x' :: cs => trimStartHex cs
  | cs => cs

def numeralErrorText : NumeralError → String
  | .empty => "cannot parse integer from empty string"
  | .invalidDigit => "invalid digit found in string"
  | .posOverflow => "number too large to fit in target type"
  | .negOverflow => "number too small to fit in target type"

def decodeLevel (field : List Char) : Except MacError Int8 :=
  if field = [] then .ok 0
  else
    match fromStrRadix 10 (-128) 127 field with
    | .ok level => .ok (Int8.ofInt level)
    | .error e =>
      .error (.textFormat ("bad level " ++ debugText field ++ ": " ++ numeralErrorText e))

def decodeCategories (field : List Char) : Except MacError UInt64 :=
  if field = [] then .ok 0
  else
    match fromStrRadix 16 0 (2 ^ 64 - 1) (trimStartHex field) with
    | .ok categories => .ok (UInt64.ofNat categories.toNat)
    | .error e =>
      .error (.textFormat ("bad cat hex " ++ debugText field ++ ": " ++ numeralErrorText e))

-- A missing field counts as an empty one. The fields before the level and behind the
-- categories are not looked at.
def decodeLabelText (s : String) : Except MacError IntegrityLabel := do
  let parts := splitN ':' 4 (trimText isWhiteSpace s.toList)
  let level ← decodeLevel (parts[1]?.getD [])
  let categories ← decodeCategories (parts[2]?.getD [])
  .ok ⟨level, categories⟩

/-- The fields of an encoded label. -/
def labelFields (l : IntegrityLabel) (flags : List McFlag) : List (List Char) :=
  [['0'], numeral 10 l.level.toInt, numeral 16 l.categories.toNat]
    ++ if flags = [] then [] else [[','].intercalate (flags.map (·.asStr.toList))]

theorem toList_encodeLabelText (l : IntegrityLabel) (flags : List McFlag) :
    (encodeLabelText l flags).toList = [':'].intercalate (labelFields l flags) := by
  by_cases h : flags = []
  · simp [encodeLabelText, labelFields, h, List.intercalate]
  · simp [encodeLabelText, labelFields, h, List.intercalate, String.toList_intercalate]
    rfl

/-- A character that a field of an encoded label may have. -/
def FieldChar (c : Char) : Prop := c ≠ ':' ∧ isWhiteSpace c = false

instance (c : Char) : Decidable (FieldChar c) := inferInstanceAs (Decidable (_ ∧ _))

theorem fieldChar_of_mem_asStr (flag : McFlag) : ∀ c ∈ flag.asStr.toList, FieldChar c := by
  have hall : flag.asStr.toList.all (fun c => decide (FieldChar c)) = true := by
    cases flag <;> decide
  intro c hc
  exact of_decide_eq_true (List.all_eq_true.mp hall c hc)

theorem fieldChar_of_mem_flags (flags : List McFlag) :
    ∀ c ∈ [','].intercalate (flags.map (·.asStr.toList)), FieldChar c := by
  intro c hc
  rcases mem_intercalate hc with rfl | ⟨text, htext, hc⟩
  · decide
  · obtain ⟨flag, -, rfl⟩ := List.mem_map.mp htext
    exact fieldChar_of_mem_asStr flag c hc

theorem fieldChar_of_mem_numeral {radix : ℕ} (hradix : 1 < radix) (hle : radix ≤ 16) (i : ℤ) :
    ∀ c ∈ numeral radix i, FieldChar c :=
  forall_mem_numeral (by decide) (by decide) hradix hle i

theorem fieldChar_of_mem_labelFields (l : IntegrityLabel) (flags : List McFlag) :
    ∀ f ∈ labelFields l flags, ∀ c ∈ f, FieldChar c := by
  intro f hf
  simp only [labelFields, List.mem_append, List.mem_cons, List.not_mem_nil, or_false] at hf
  rcases hf with (rfl | rfl | rfl) | hf
  · intro c hc
    rw [List.mem_singleton] at hc
    subst hc
    decide
  · exact fieldChar_of_mem_numeral (by decide) (by decide) _
  · exact fieldChar_of_mem_numeral (by decide) (by decide) _
  · split at hf
    · cases hf
    · rw [List.mem_singleton] at hf
      exact hf ▸ fieldChar_of_mem_flags flags

theorem colon_notMem_labelFields (l : IntegrityLabel) (flags : List McFlag) :
    ∀ f ∈ labelFields l flags, ':' ∉ f :=
  fun f hf hmem => (fieldChar_of_mem_labelFields l flags f hf ':' hmem).1 rfl

theorem labelFields_ne_nil (l : IntegrityLabel) (flags : List McFlag) : labelFields l flags ≠ [] := by
  simp [labelFields]

theorem length_labelFields (l : IntegrityLabel) (flags : List McFlag) :
    (labelFields l flags).length = if flags = [] then 3 else 4 := by
  unfold labelFields
  split <;> rfl

theorem trimText_of_forall {cs : List Char} (h : ∀ c ∈ cs, isWhiteSpace c = false) :
    trimText isWhiteSpace cs = cs := by
  have hfront : cs.dropWhile isWhiteSpace = cs := by
    rw [List.dropWhile_eq_self_iff]
    intro hlength
    simp [h _ (List.getElem_mem hlength)]
  rw [trimText, hfront, List.rdropWhile_eq_self_iff]
  intro hne
  simp [h _ (List.getLast_mem hne)]

theorem trimText_encodeLabelText (l : IntegrityLabel) (flags : List McFlag) :
    trimText isWhiteSpace (encodeLabelText l flags).toList =
      [':'].intercalate (labelFields l flags) := by
  rw [toList_encodeLabelText]
  apply trimText_of_forall
  intro c hc
  rcases mem_intercalate hc with rfl | ⟨f, hf, hcf⟩
  · rfl
  · exact (fieldChar_of_mem_labelFields l flags f hf c hcf).2

theorem trimStartHex_of_notMem {cs : List Char} (h : 'x' ∉ cs) : trimStartHex cs = cs := by
  unfold trimStartHex
  split
  · simp at h
  · rfl

theorem decodeLevel_numeral (level : Int8) :
    decodeLevel (numeral 10 level.toInt) = .ok level := by
  have hlo := level.le_toInt
  have hhi := level.toInt_lt
  rw [decodeLevel, if_neg (numeral_ne_nil _ _),
    fromStrRadix_numeral (by decide) (by decide) (by decide) (by decide) (by omega)]
  simp only [Int8.ofInt_toInt]

theorem decodeCategories_numeral (categories : UInt64) :
    decodeCategories (numeral 16 categories.toNat) = .ok categories := by
  have hlt := categories.toNat_lt
  have hx : 'x' ∉ numeral 16 categories.toNat := by
    intro hmem
    exact forall_mem_numeral (P := (· ≠ 'x')) (by decide) (by decide) (by decide) (by decide) _ _
      hmem rfl
  rw [decodeCategories, if_neg (numeral_ne_nil _ _), trimStartHex_of_notMem hx,
    fromStrRadix_numeral (by decide) (by decide) (by decide) (by decide) (by omega)]
  simp only [Int.toNat_natCast, UInt64.ofNat_toNat]

/-- A label survives the way through its text, whatever the flags are, and the text has a
field for the flags exactly if there are any. -/
theorem decode_encode_label_text (l : IntegrityLabel) (flags : List McFlag) :
    decodeLabelText (encodeLabelText l flags) = .ok l ∧
      ((encodeLabelText l flags).toList.splitOn ':').length = if flags = [] then 3 else 4 := by
  have hcolon := colon_notMem_labelFields l flags
  have hne := labelFields_ne_nil l flags
  have hlength := length_labelFields l flags
  constructor
  · have hsplit : splitN ':' 4 (trimText isWhiteSpace (encodeLabelText l flags).toList) =
        labelFields l flags := by
      rw [trimText_encodeLabelText]
      refine splitN_intercalate hcolon hne ?_
      rw [hlength]
      split <;> decide
    have hlevel : (labelFields l flags)[1]?.getD [] = numeral 10 l.level.toInt := rfl
    have hcategories : (labelFields l flags)[2]?.getD [] = numeral 16 l.categories.toNat := rfl
    rw [decodeLabelText]
    simp only [hsplit, hlevel, hcategories, decodeLevel_numeral, decodeCategories_numeral]
    rfl
  · rw [toList_encodeLabelText, List.splitOn_intercalate _ hcolon hne, hlength]

example : encodeLabelText ⟨-128, 0xFF⟩ [.irelax, .silev] = "0:-128:ff:irelax,silev" := by decide +kernel

end PamCertauth.Mac
