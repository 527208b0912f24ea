import RouteTypes.Proofs.Location
import RouteTypes.Proofs.Text.Percent
import RouteTypes.Proofs.Url

/-!
# Files that are named by an address

A file has an address beside its path: a scheme, an empty authority and the path, of which all
characters that could mean something else are percent-encoded. The path of this address is the
encoded one (`ofString_fileUrl`), so it is decoded to the path of the file, and a document is
referred to in the same way from both (`fileUrl_exchangeable`).
-/

namespace RouteTypes.Location

variable {path : List Char} {c : Char}

/-- A character of a path that stands for itself in an address. -/
def isPathChar (c : Char) : Bool :=
  c.isAlphanum || c == '_' || c == '.' || c == '-' || c == '~' || c == '/'

/-- The address of a file. -/
def fileUrl (scheme path : String) : String :=
  String.ofList (scheme.toList ++ "://".toList ++ Text.percentEncode isPathChar path.toList)

theorem toList_fileUrl (scheme path : String) : (fileUrl scheme path).toList =
    scheme.toList ++ "://".toList ++ Text.percentEncode isPathChar path.toList :=
  String.toList_ofList

/-! ## The characters of an encoded path -/

/-- A character of an encoded path. -/
def isEncodedChar (c : Char) : Bool :=
  isPathChar c || c == '%'

theorem isEncodedChar_upperHexDigit {value : Nat} (small : value < 16) :
    isEncodedChar (Text.upperHexDigit value) = true := by
  decide +revert

theorem isEncodedChar_percentByte {byte : UInt8} (member : c ∈ Text.percentByte byte) :
    isEncodedChar c = true := by
  have bound := UInt8.toNat_lt byte
  rcases List.mem_cons.1 member with rfl | member
  · rfl
  · rcases List.mem_cons.1 member with rfl | member
    · exact isEncodedChar_upperHexDigit (by omega)
    · rw [List.mem_singleton.1 member]
      exact isEncodedChar_upperHexDigit (by omega)

theorem isEncodedChar_percentEncode (member : c ∈ Text.percentEncode isPathChar path) :
    isEncodedChar c = true := by
  obtain ⟨origin, _, inside⟩ := List.mem_flatMap.1 member
  split at inside
  next kept =>
    rw [List.mem_singleton.1 inside, isEncodedChar, kept]
    rfl
  next =>
    obtain ⟨byte, _, written⟩ := List.mem_flatMap.1 inside
    exact isEncodedChar_percentByte written

theorem notMem_percentEncode {mark : Char} (special : isEncodedChar mark = false) :
    mark ∉ Text.percentEncode isPathChar path := by
  intro member
  rw [isEncodedChar_percentEncode member] at special
  cases special

theorem percentEncode_absolute (absolute : path.head? = some '/') :
    ∃ rest, Text.percentEncode isPathChar path = '/' :: rest := by
  obtain ⟨rest, rfl⟩ := List.head?_eq_some_iff.1 absolute
  exact ⟨Text.percentEncode isPathChar rest, rfl⟩

/-! ## The scheme -/

theorem isAlpha_of_isLower_toLower (lower : c.toLower.isLower = true) : c.isAlpha = true := by
  refine Bool.or_eq_true_iff.2 ?_
  by_cases upper : 'A'.val ≤ c.val ∧ c.val ≤ 'Z'.val
  · exact .inl (decide_eq_true upper)
  · have same : c.toLower = c := dif_neg upper
    rw [same] at lower
    exact .inr lower

section

variable {scheme : String}

/-- The letters of the scheme of files, each in upper or in lower case. -/
theorem letters_of_anyCase (anyCase : scheme.toList.map Char.toLower = "file".toList) :
    ∀ c ∈ scheme.toList, c.isAlpha = true := by
  intro c member
  have lower : c.toLower ∈ "file".toList := anyCase ▸ List.mem_map_of_mem member
  have letters : "file".toList.all Char.isLower = true := by decide
  exact isAlpha_of_isLower_toLower (List.all_eq_true.1 letters _ lower)

theorem isScheme_of_anyCase (anyCase : scheme.toList.map Char.toLower = "file".toList) :
    Url.IsScheme scheme.toList where
  letter := by
    have letters := letters_of_anyCase anyCase
    cases same : scheme.toList with
    | nil =>
        rw [same] at anyCase
        cases anyCase
    | cons first others =>
        exact ⟨first, others, rfl, letters first (same ▸ List.mem_cons_self)⟩
  chars := by
    rw [List.all_eq_true]
    intro c member
    rw [Url.isSchemeChar, Char.isAlphanum, letters_of_anyCase anyCase c member]
    rfl

end

/-! ## Reading the address -/

/-- Between two slashes and a third one there is an empty authority. -/
@[simp] theorem splitAuthority_absolute (rest : List Char) :
    Url.splitAuthority ('/' :: '/' :: '/' :: rest) = ([], '/' :: rest) := rfl

variable {scheme path : String}

theorem isDropped_fileUrl (anyCase : scheme.toList.map Char.toLower = "file".toList) :
    (scheme.toList ++ "://".toList ++ Text.percentEncode isPathChar path.toList).any
      Url.isDropped = false := by
  rw [List.any_eq_false]
  intro c member
  rw [Bool.not_eq_true]
  rcases List.mem_append.1 member with member | member
  · rcases List.mem_append.1 member with member | member
    · exact Url.isDropped_of_class (letters_of_anyCase anyCase c member) (by decide)
    · have marks : "://".toList.any Url.isDropped = false := by decide
      rw [← Bool.not_eq_true]
      exact List.any_eq_false.1 marks c member
  · exact Url.isDropped_of_class (isEncodedChar_percentEncode member) (by decide)

/-- The address is read from its first to its last character. -/
theorem cleaned_fileUrl (anyCase : scheme.toList.map Char.toLower = "file".toList) :
    Url.cleaned (fileUrl scheme path) = scheme.toList ++
      ':' :: '/' :: '/' :: Text.percentEncode isPathChar path.toList := by
  obtain ⟨first, others, isScheme, letter⟩ := (isScheme_of_anyCase anyCase).letter
  have kept := @isDropped_fileUrl scheme path anyCase
  rw [isScheme, List.append_assoc, List.cons_append] at kept
  have isText : (fileUrl scheme path).toList = first :: (others ++ ("://".toList ++
      Text.percentEncode isPathChar path.toList)) ++ [] := by
    rw [toList_fileUrl, isScheme, List.append_nil, List.append_assoc, List.cons_append]
  rw [Url.cleaned_of_append isText (Url.isLeading_of_isAlpha letter) kept, isScheme,
    List.filter_nil, List.append_nil]
  rfl

/-- The path of the address is the encoded path. -/
theorem ofString_fileUrl (anyCase : scheme.toList.map Char.toLower = "file".toList)
    (absolute : path.toList.head? = some '/') (defaultScheme : List Char) :
    Url.ofString defaultScheme (fileUrl scheme path) =
      .ok ⟨"file".toList, [], Text.percentEncode isPathChar path.toList, [], [], []⟩ := by
  have read : Url.splitScheme (Url.cleaned (fileUrl scheme path)) =
      (some "file".toList, '/' :: '/' :: Text.percentEncode isPathChar path.toList) := by
    rw [cleaned_fileUrl anyCase, Url.splitScheme_append (isScheme_of_anyCase anyCase), anyCase]
  have uncut {mark : Char} (special : isEncodedChar mark = false) :
      Text.cut mark (Text.percentEncode isPathChar path.toList) =
        (Text.percentEncode isPathChar path.toList, none) :=
    Text.cut_of_notMem (notMem_percentEncode special)
  have noFragment : Text.cut '#' _ = _ := uncut (by decide)
  have noQuery : Text.cut '?' _ = _ := uncut (by decide)
  obtain ⟨rest, isPath⟩ := percentEncode_absolute absolute
  unfold Url.ofString
  rw [← Url.cleaned]
  dsimp only
  rw [read]
  dsimp only [Option.getD]
  rw [isPath] at noFragment noQuery ⊢
  rw [splitAuthority_absolute]
  dsimp only
  rw [noFragment]
  dsimp only
  rw [noQuery]
  rfl

theorem isFileUrl_fileUrl (anyCase : scheme.toList.map Char.toLower = "file".toList) :
    isFileUrl (fileUrl scheme path) = true := by
  rw [isFileUrl, Text.startsWithAnyCase, List.isPrefixOf_iff_prefix, toList_fileUrl,
    List.append_assoc, List.map_append, anyCase]
  exact ⟨_, rfl⟩

theorem fileUrlPath_fileUrl (anyCase : scheme.toList.map Char.toLower = "file".toList)
    (absolute : path.toList.head? = some '/') : fileUrlPath (fileUrl scheme path) = .ok path := by
  rw [fileUrlPath, ofString_fileUrl anyCase absolute]
  have form : Text.PercentForm path.toList
      (String.ofList (Text.percentEncode isPathChar path.toList)).toList := by
    rw [String.toList_ofList]
    exact Text.percentForm_percentEncode (by decide) path.toList
  exact congrArg Except.ok (Text.percentDecode_of_form form)

theorem isFileUrl_absolute (absolute : path.toList.head? = some '/') : isFileUrl path = false := by
  obtain ⟨rest, isPath⟩ := List.head?_eq_some_iff.1 absolute
  rw [isFileUrl, Text.startsWithAnyCase, isPath]
  rfl

theorem isWeb_absolute (absolute : path.toList.head? = some '/') : isWeb path = false := by
  obtain ⟨rest, isPath⟩ := List.head?_eq_some_iff.1 absolute
  rw [isWeb, Text.startsWith, Text.startsWith, isPath]
  rfl

/-- The address of a file is decoded to the path of the file, and every location means the same in
a document at the address as in one at the path. -/
theorem fileUrl_exchangeable (anyCase : scheme.toList.map Char.toLower = "file".toList)
    (absolute : path.toList.head? = some '/') :
    fileUrlPath (fileUrl scheme path) = .ok path ∧ ∀ location,
      join (some (fileUrl scheme path)) location = join (some path) location := by
  have decoded := fileUrlPath_fileUrl anyCase absolute
  refine ⟨decoded, ?_⟩
  intro location
  have isFile : isFileUrl (fileUrl scheme path) = true := isFileUrl_fileUrl anyCase
  have samePath : basePath (fileUrl scheme path) = basePath path := by
    rw [basePath_of_notFileUrl (isFileUrl_absolute absolute), basePath, isFile, if_pos rfl, decoded]
  have notWeb := isWeb_absolute absolute
  have urlNotWeb : isWeb (fileUrl scheme path) = false := isWeb_of_isFileUrl isFile
  by_cases relative : Relative location
  · rw [join_of_relative relative urlNotWeb, join_of_relative relative notWeb, samePath]
  · exact join_eq_join_of_not_relative relative urlNotWeb notWeb

theorem fileUrl_exchangeable_marks :
    "FiLe".toList.map Char.toLower = "file".toList ∧
    "/a b/#1?%20;v//é".toList.head? = some '/' ∧
    fileUrl "FiLe" "/a b/#1?%20;v//é" = "FiLe:///a%20b/%231%3F%2520%3Bv//%C3%A9" ∧
    fileUrlPath (fileUrl "FiLe" "/a b/#1?%20;v//é") = .ok "/a b/#1?%20;v//é" ∧
    ∀ location, join (some (fileUrl "FiLe" "/a b/#1?%20;v//é")) location =
      join (some "/a b/#1?%20;v//é") location :=
  ⟨by decide, by decide, by decide, fileUrl_exchangeable (by decide) (by decide)⟩

end RouteTypes.Location
