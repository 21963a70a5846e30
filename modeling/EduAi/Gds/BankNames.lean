import EduAi.Store.Trim
import EduAi.Gds.Withdrawals

set_option autoImplicit false

namespace EduAi.Gds

open EduAi.Store

-- The two normal forms, the upper case of the runtime and of the database, and the database's class \s.
structure NameRules where
  nfd : List Char → List Char
  nfc : List Char → List Char
  toUpperCase : List Char → List Char
  upper : List Char → List Char
  isSqlSpace : Char → Bool
  nfd_ends : KeepsEnds isJsSpace nfd
  toUpperCase_ends : KeepsEnds isJsSpace toUpperCase

-- [\u0300-\u036f]
def combining (c : Char) : Bool :=
  0x300 ≤ c.toNat ∧ c.toNat ≤ 0x36f

-- [đĐ] becomes D.
def plainD (c : Char) : Char :=
  if c = 'đ' ∨ c = 'Đ' then 'D' else c

def accented : List Char :=
  ['à', 'á', 'ạ', 'ả', 'ã', 'â', 'ầ', 'ấ', 'ậ', 'ẩ', 'ẫ', 'ă', 'ằ', 'ắ', 'ặ', 'ẳ', 'ẵ', 'è', 'é', 'ẹ', 'ẻ', 'ẽ', 'ê', 'ề',
    'ế', 'ệ', 'ể', 'ễ', 'ì', 'í', 'ị', 'ỉ', 'ĩ', 'ò', 'ó', 'ọ', 'ỏ', 'õ', 'ô', 'ồ', 'ố', 'ộ', 'ổ', 'ỗ', 'ơ', 'ờ', 'ớ', 'ợ',
    'ở', 'ỡ', 'ù', 'ú', 'ụ', 'ủ', 'ũ', 'ư', 'ừ', 'ứ', 'ự', 'ử', 'ữ', 'ỳ', 'ý', 'ỵ', 'ỷ', 'ỹ', 'đ', 'À', 'Á', 'Ạ', 'Ả', 'Ã',
    'Â', 'Ầ', 'Ấ', 'Ậ', 'Ẩ', 'Ẫ', 'Ă', 'Ằ', 'Ắ', 'Ặ', 'Ẳ', 'Ẵ', 'È', 'É', 'Ẹ', 'Ẻ', 'Ẽ', 'Ê', 'Ề', 'Ế', 'Ệ', 'Ể', 'Ễ', 'Ì',
    'Í', 'Ị', 'Ỉ', 'Ĩ', 'Ò', 'Ó', 'Ọ', 'Ỏ', 'Õ', 'Ô', 'Ồ', 'Ố', 'Ộ', 'Ổ', 'Ỗ', 'Ơ', 'Ờ', 'Ớ', 'Ợ', 'Ở', 'Ỡ', 'Ù', 'Ú', 'Ụ',
    'Ủ', 'Ũ', 'Ư', 'Ừ', 'Ứ', 'Ự', 'Ử', 'Ữ', 'Ỳ', 'Ý', 'Ỵ', 'Ỷ', 'Ỹ', 'Đ']

def unaccented : List Char :=
  ['a', 'a', 'a', 'a', 'a', 'a', 'a', 'a', 'a', 'a', 'a', 'a', 'a', 'a', 'a', 'a', 'a', 'e', 'e', 'e', 'e', 'e', 'e', 'e',
    'e', 'e', 'e', 'e', 'i', 'i', 'i', 'i', 'i', 'o', 'o', 'o', 'o', 'o', 'o', 'o', 'o', 'o', 'o', 'o', 'o', 'o', 'o', 'o',
    'o', 'o', 'u', 'u', 'u', 'u', 'u', 'u', 'u', 'u', 'u', 'u', 'u', 'y', 'y', 'y', 'y', 'y', 'd', 'A', 'A', 'A', 'A', 'A',
    'A', 'A', 'A', 'A', 'A', 'A', 'A', 'A', 'A', 'A', 'A', 'A', 'E', 'E', 'E', 'E', 'E', 'E', 'E', 'E', 'E', 'E', 'E', 'I',
    'I', 'I', 'I', 'I', 'O', 'O', 'O', 'O', 'O', 'O', 'O', 'O', 'O', 'O', 'O', 'O', 'O', 'O', 'O', 'O', 'O', 'U', 'U', 'U',
    'U', 'U', 'U', 'U', 'U', 'U', 'U', 'U', 'Y', 'Y', 'Y', 'Y', 'Y', 'D']

def translate (from_ to_ : List Char) (value : List Char) : List Char :=
  value.flatMap (fun c =>
    match from_.idxOf? c with
    | none => [c]
    | some i => to_[i]?.toList)

section Names

variable (names : NameRules)

def foldName (chars : List Char) : List Char :=
  replaceRuns isJsSpace ' ' (names.toUpperCase (((names.nfd chars).filter (fun c => !combining c)).map plainD))

def NameRules.normalizeBankAccountName (value : String) : String :=
  jsTrim (String.ofList (foldName names value.toList))

def NameRules.gdsNormalizeBankName (value : String) : String :=
  String.ofList (sqlTrim (String.ofList (names.upper (replaceRuns names.isSqlSpace ' '
    (translate accented unaccented (names.nfc (sqlTrim value)))))))

theorem plainD_space (c : Char) (space : isJsSpace c = true) : isJsSpace (plainD c) = true := by
  unfold plainD
  rw [if_neg ?_]
  · exact space
  · rintro (rfl | rfl) <;> exact absurd space (by decide)

theorem foldName_ends : KeepsEnds isJsSpace (foldName names) :=
  keepsEnds_comp (keepsEnds_comp (keepsEnds_comp (keepsEnds_comp names.nfd_ends (keepsEnds_filter _)) (keepsEnds_map plainD plainD_space))
    names.toUpperCase_ends) (keepsEnds_replaceRuns (by decide))

theorem normalizeBankAccountName_trimmed (value : String) :
    names.normalizeBankAccountName (jsTrim value) = names.normalizeBankAccountName value :=
  jsTrim_keepsEnds _ (foldName_ends names) value

end Names

end EduAi.Gds
