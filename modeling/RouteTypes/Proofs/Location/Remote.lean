import RouteTypes.Proofs.Check.Success
import RouteTypes.Proofs.Reference.Branch
import RouteTypes.Proofs.Run
import RouteTypes.Proofs.Url

/-!
# References of pages

A location on a page leads to another page exactly if it names no scheme, the scheme of the page or,
in lower case, one of the web (`join_onPage_iff`). Any other location is left as it stands and is
opened as a file, `HTTPS://host/pet.json` on a page without encryption among them
(`spelled_scheme_opens_file`). So a resolution that starts with a page stays on pages as long as it
meets no such location (`onPage_of_known`).
-/

namespace RouteTypes

namespace Url

variable {base reference uri : String} {url : Url}

/-- The scheme that an address names. -/
def scheme? (text : String) : Option (List Char) :=
  (splitScheme (cleaned text)).1

/-- The scheme of an address is the one that it names, or else the default one. -/
theorem scheme_of_ofString {defaultScheme : List Char} {text : String}
    (read : ofString defaultScheme text = .ok url) :
    url.scheme = (scheme? text).getD defaultScheme := by
  unfold ofString at read
  obtain ⟨_, _, read⟩ := except_bind_eq_ok.1 read
  obtain ⟨_, _, read⟩ := except_bind_eq_ok.1 read
  cases read
  rfl

/-- Joining gives the page itself, the reference as it stands, or an address of the scheme of the
page. -/
inductive Joins (base reference : String) : String → Prop where
  | stays (empty : reference = "") : Joins base reference base
  | leaves {page url : Url} (isPage : ofString [] base = .ok page)
      (read : ofString page.scheme reference = .ok url) (other : url.scheme ≠ page.scheme) :
      Joins base reference reference
  | within {page url : Url} (merged : Url) (isPage : ofString [] base = .ok page)
      (read : ofString page.scheme reference = .ok url) (same : url.scheme = page.scheme)
      (kept : merged.scheme = page.scheme) : Joins base reference merged.toString

theorem joins_of_join (joined : join base reference = .ok uri) : Joins base reference uri := by
  unfold join at joined
  split at joined
  next empty =>
    cases joined
    exact .stays (eq_of_beq empty)
  next =>
    obtain ⟨page, isPage, joined⟩ := except_bind_eq_ok.1 joined
    obtain ⟨url, read, joined⟩ := except_bind_eq_ok.1 joined
    split at joined
    next other =>
      cases joined
      exact .leaves isPage read (bne_iff_ne.1 other)
    next alike =>
      have same : url.scheme = page.scheme := by simpa using alike
      split at joined
      next =>
        cases joined
        exact .within url isPage read same same
      next =>
        split at joined
        next =>
          cases joined
          exact .within _ isPage read same rfl
        next =>
          cases joined
          exact .within _ isPage read same same

/-- The text of an address starts with its scheme. -/
theorem toList_toString (url : Url) :
    ∃ rest, url.toString.toList = url.scheme ++ "://".toList ++ rest := by
  rw [toString, String.toList_ofList]
  simp only [List.append_assoc]
  exact ⟨_, rfl⟩

end Url

namespace Location

variable {base location uri : String}

/-- The schemes of the web. -/
def IsWebScheme (scheme : List Char) : Prop :=
  scheme = "http".toList ∨ scheme = "https".toList

theorem isWeb_iff {text : String} : isWeb text = true ↔
    ∃ scheme rest, IsWebScheme scheme ∧ scheme ++ "://".toList ++ rest = text.toList := by
  unfold isWeb Text.startsWith
  rw [Bool.or_eq_true, List.isPrefixOf_iff_prefix, List.isPrefixOf_iff_prefix]
  constructor
  · rintro (⟨rest, same⟩ | ⟨rest, same⟩)
    · exact ⟨"http".toList, rest, .inl rfl, same⟩
    · exact ⟨"https".toList, rest, .inr rfl, same⟩
  · rintro ⟨scheme, rest, rfl | rfl, same⟩
    · exact .inl ⟨rest, same⟩
    · exact .inr ⟨rest, same⟩

/-- The scheme of a page, which is in lower case. -/
theorem scheme?_of_isWeb (web : isWeb base = true) :
    ∃ scheme, IsWebScheme scheme ∧ Url.scheme? base = some scheme := by
  obtain ⟨scheme, rest, isScheme, same⟩ := isWeb_iff.1 web
  refine ⟨scheme, isScheme, ?_⟩
  rw [Url.scheme?]
  rcases isScheme with rfl | rfl
  · have isName : Url.IsScheme "http".toList := ⟨⟨'h', _, rfl, by decide⟩, by decide⟩
    have cleaned := Url.cleaned_of_append same.symm (by decide) (by decide)
    rw [cleaned]
    exact congrArg Prod.fst (Url.splitScheme_append isName _)
  · have isName : Url.IsScheme "https".toList := ⟨⟨'h', _, rfl, by decide⟩, by decide⟩
    have cleaned := Url.cleaned_of_append same.symm (by decide) (by decide)
    rw [cleaned]
    exact congrArg Prod.fst (Url.splitScheme_append isName _)

theorem isWeb_of_scheme {url : Url} (isScheme : IsWebScheme url.scheme) :
    isWeb url.toString = true := by
  obtain ⟨rest, same⟩ := url.toList_toString
  exact isWeb_iff.2 ⟨url.scheme, rest, isScheme, same.symm⟩

/-- A location that does not stay with the page: read as an address it names another scheme than the
page, and it does not start as a location of the web. -/
structure Foreign (page location : String) : Prop where
  notWeb : isWeb location = false
  other : ∃ scheme, Url.scheme? location = some scheme ∧ Url.scheme? page ≠ some scheme

/-- From a page a location leads to another page or, where it is foreign to the page, stays as it
is. -/
theorem join_onPage (onPage : isWeb base = true) (notFile : isFileUrl location = false)
    (joined : join (some base) location = .ok uri) :
    Foreign base location ∧ uri = location ∨ ¬Foreign base location ∧ isWeb uri = true := by
  unfold join at joined
  split at joined
  next web =>
    cases joined
    exact .inr ⟨fun foreign => absurd (web.symm.trans foreign.notWeb) Bool.noConfusion, web⟩
  next notWeb =>
    rw [Bool.not_eq_true] at notWeb
    rw [notFile, if_neg Bool.false_ne_true, Option.any_some, onPage, if_pos rfl] at joined
    obtain ⟨scheme, isScheme, named⟩ := scheme?_of_isWeb onPage
    have schemeOf {page : Url} (isPage : Url.ofString [] base = .ok page) :
        page.scheme = scheme := by
      rw [Url.scheme_of_ofString isPage, named]
      rfl
    cases Url.joins_of_join joined with
    | stays empty =>
        refine .inr ⟨?_, onPage⟩
        rintro ⟨_, other, found, _⟩
        rw [empty] at found
        cases found
    | leaves isPage read other =>
        rw [Url.scheme_of_ofString read, schemeOf isPage] at other
        refine .inl ⟨⟨notWeb, ?_⟩, rfl⟩
        cases found : Url.scheme? location with
        | none => exact absurd (by rw [found]; rfl) other
        | some another =>
            rw [found] at other
            refine ⟨another, rfl, ?_⟩
            rw [named]
            exact fun same => other (Option.some.inj same).symm
    | within merged isPage read same kept =>
        rw [Url.scheme_of_ofString read, schemeOf isPage] at same
        refine .inr ⟨?_, isWeb_of_scheme (by rwa [kept, schemeOf isPage])⟩
        rintro ⟨_, other, found, different⟩
        rw [found] at same
        exact different (named.trans (congrArg some same.symm))

theorem loadReferenced_of_isWeb (host : Host) (follows : Bool) (web : isWeb uri = true) :
    Contract.loadReferenced host follows uri = Contract.ofWeb host.web follows
      (fun page => Contract.hintOfReference page.contentType uri) uri := by
  rw [Contract.loadReferenced, web]
  rfl

theorem loadReferenced_of_notWeb (host : Host) (follows : Bool) (notWeb : isWeb uri = false) :
    Contract.loadReferenced host follows uri = .offline (Contract.ofFile host.files uri) := by
  rw [Contract.loadReferenced, notWeb]
  rfl

/-- What a location of a page leads to is fetched from the web and from nowhere else, exactly if the
location is not foreign to the page. A foreign one is opened as a file, as it is written. -/
theorem join_onPage_iff (onPage : isWeb base = true) (notFile : isFileUrl location = false)
    (joined : join (some base) location = .ok uri) :
    (isWeb uri = true ↔ ¬Foreign base location) ∧
    (¬Foreign base location → ∀ host follows, Contract.loadReferenced host follows uri =
      Contract.ofWeb host.web follows
        (fun page => Contract.hintOfReference page.contentType uri) uri) ∧
    (Foreign base location → uri = location ∧ ∀ host follows,
      Contract.loadReferenced host follows uri =
        .offline (Contract.ofFile host.files location)) := by
  rcases join_onPage onPage notFile joined with ⟨foreign, rfl⟩ | ⟨stays, web⟩
  · refine ⟨?_, fun stays => absurd foreign stays, fun _ => ⟨rfl, ?_⟩⟩
    · rw [foreign.notWeb]
      exact ⟨fun impossible => Bool.noConfusion impossible, fun stays => absurd foreign stays⟩
    · exact fun host follows => loadReferenced_of_notWeb host follows foreign.notWeb
  · refine ⟨⟨fun _ => stays, fun _ => web⟩, fun _ => ?_, fun foreign => absurd foreign stays⟩
    exact fun host follows => loadReferenced_of_isWeb host follows web

theorem join_onPage_iff_sameScheme : isWeb "https://a.test/api.json" = true ∧
    isFileUrl "HTTPS://b.test/pet.json" = false ∧
    join (some "https://a.test/api.json") "HTTPS://b.test/pet.json" =
      .ok "https://b.test/pet.json" ∧
    isWeb "https://b.test/pet.json" = true := by
  have joined : join (some "https://a.test/api.json") "HTTPS://b.test/pet.json" =
      .ok "https://b.test/pet.json" := rfl
  have stays : ¬Foreign "https://a.test/api.json" "HTTPS://b.test/pet.json" := by
    have named : Url.scheme? "HTTPS://b.test/pet.json" = some "https".toList := rfl
    have alsoNamed : Url.scheme? "https://a.test/api.json" = some "https".toList := rfl
    rintro ⟨_, scheme, found, other⟩
    exact other (alsoNamed.trans (named.symm.trans found))
  exact ⟨by decide, by decide, joined, (join_onPage_iff (by decide) (by decide) joined).1.2 stays⟩

/-- A host with an empty document in a file. -/
def spelledHost : Host :=
  { Host.bare with files := ⟨[], [(["HTTPS:"], .directory), (["HTTPS:", "b.test"], .directory),
      (["HTTPS:", "b.test", "pet.json"], .file (Utf8.encodeString "\x7b\x7d"))]⟩ }

/-- The address of a page, written with a scheme in upper case, is opened as a file on a page of
another scheme, and nothing is requested. -/
theorem spelled_scheme_opens_file : isWeb "http://a.test/api.json" = true ∧
    isFileUrl "HTTPS://b.test/pet.json" = false ∧
    join (some "http://a.test/api.json") "HTTPS://b.test/pet.json" =
      .ok "HTTPS://b.test/pet.json" ∧
    isWeb "HTTPS://b.test/pet.json" = false ∧
    (Contract.loadReferenced spelledHost true "HTTPS://b.test/pet.json").requests = [] ∧
    (Contract.loadReferenced spelledHost true "HTTPS://b.test/pet.json").outcome =
      .ok (.mapping []) :=
  ⟨by decide, by decide, rfl, by decide, rfl, rfl⟩

/-! ## Chains of pages -/

section Chains

open Reference

variable {host : Host} {document : Value} {scope : Scope}

/-- The references of a document on a page stay on pages. -/
def StaysOnPages (scope : Scope) : Prop :=
  ∀ page reference, scope.location = some page → Refers scope.root reference →
    isFileUrl (split reference).1 = false ∧ ¬Foreign page (split reference).1

/-- A document stands on a page: the first one, or one that was fetched from the web. -/
structure OnPage (host : Host) (document : Value) (scope : Scope) (page : String) : Prop where
  located : scope.location = some page
  web : isWeb page = true
  fetched : scope.root = document ∨ (Contract.ofWeb host.web true
    (fun found => Contract.hintOfReference found.contentType page) page).outcome = .ok scope.root

/-- A resolution that starts on a page stays on pages, whatever files there are, as long as the
references that it meets do. -/
theorem onPage_of_known (onPage : isWeb base = true)
    (stays : ∀ scope, Known (loads host) ⟨document, some base⟩ scope → StaysOnPages scope)
    (known : Known (loads host) ⟨document, some base⟩ scope) :
    ∃ page, OnPage host document scope page := by
  induction known with
  | start => exact ⟨base, rfl, onPage, .inl rfl⟩
  | follow known refers entered ih =>
      obtain ⟨page, here⟩ := ih
      rcases enter_eq_ok.1 entered with ⟨_, rfl⟩ | ⟨_, joined, found, success, loaded, rfl⟩
      · exact ⟨page, here⟩
      · obtain ⟨notFile, notForeign⟩ := stays _ known page _ here.located refers
        rw [here.located] at success
        rcases join_onPage here.web notFile success with ⟨foreign, _⟩ | ⟨_, web⟩
        · exact absurd foreign notForeign
        · rw [loads, loadReferenced_of_isWeb host true web] at loaded
          exact ⟨joined, rfl, web, .inr loaded⟩

end Chains

end Location

end RouteTypes
