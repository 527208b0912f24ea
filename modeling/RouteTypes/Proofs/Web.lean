import RouteTypes.Proofs.Number.Integer
import RouteTypes.Web

/-!
# Where responses lead

An address at which nothing can be requested is too long, holds a control character, or has a host
or port that cannot be (`Address.exists_check_eq_error_iff`). Responses that point elsewhere lead
from an address to others (`Web.Leads`). Where they lead to an address at which nothing can be
requested, fetching fails for this reason, and it fails so for no other
(`Web.fetch_eq_address_iff`). A page that is delivered at once is also delivered where responses are
followed (`Web.fetch_of_fetch`).
-/

namespace RouteTypes

namespace Address

/-- The host of an address, without the name of a user. -/
def host (address : String) : List Char :=
  (splitPort (afterLast '@' (Url.splitAuthority (Url.splitScheme address.toList).2).1)).1

/-- The port of an address. -/
def port (address : String) : List Char :=
  (splitPort (afterLast '@' (Url.splitAuthority (Url.splitScheme address.toList).2).1)).2

/-- Nothing can be requested at an address: it is too long or holds a control character, its host is
four numbers or stands in brackets but is no address of a host, or its port is no number. -/
inductive Unfit (address : String) : Prop where
  | long (long : maxLength < address.toList.length)
  | control {c : Char} (member : c ∈ address.toList) (isControl : isControl c = true)
  | numeric (numeric : isNumeric (host address) = true)
      (noHost : Url.isOldAddress (host address) = false)
  | bracketed (opens : (host address).head? = some '[')
      (closes : (host address).getLast? = some ']')
      (noHost : Url.isAddress ((host address).drop 1).dropLast = false)
  | port (given : port address ≠ [])
      (noNumber : ∀ number, ¬Number.IntegerText (port address) number)

variable {address : String}

theorem exists_checkHost_eq_error_iff {host : List Char} :
    (∃ fault, checkHost host = .error fault) ↔
      isNumeric host = true ∧ Url.isOldAddress host = false ∨
        host.head? = some '[' ∧ host.getLast? = some ']' ∧
          Url.isAddress (host.drop 1).dropLast = false := by
  unfold checkHost
  split
  next given => simp_all
  next notNumeric =>
    split
    next isBracketed => cases new : Url.isAddress (host.drop 1).dropLast <;> simp_all
    next notBracketed => simp_all

theorem exists_checkPort_eq_error_iff {port : List Char} :
    (∃ fault, checkPort port = .error fault) ↔
      port ≠ [] ∧ ∀ number, ¬Number.IntegerText port number := by
  have read (number : Int) : Number.readInteger 10 (String.ofList port) = .ok number ↔
      Number.IntegerText port number := by
    rw [Number.readInteger_eq_ok_iff, String.toList_ofList]
  unfold checkPort
  simp only [← read]
  cases Number.readInteger 10 (String.ofList port) <;> cases port <;>
    simp [Except.isOk, Except.toBool]

theorem exists_check_eq_error_iff : (∃ fault, check address = .error fault) ↔ Unfit address := by
  have unfit : Unfit address ↔ maxLength < address.toList.length ∨
      (∃ c ∈ address.toList, isControl c = true) ∨
        (∃ fault, checkHost (host address) = .error fault) ∨
          ∃ fault, checkPort (port address) = .error fault := by
    rw [exists_checkHost_eq_error_iff, exists_checkPort_eq_error_iff]
    constructor
    · rintro (long | ⟨member, isControl⟩ | ⟨numeric, noHost⟩ | ⟨opens, closes, noHost⟩ |
        ⟨given, noNumber⟩)
      · exact .inl long
      · exact .inr (.inl ⟨_, member, isControl⟩)
      · exact .inr (.inr (.inl (.inl ⟨numeric, noHost⟩)))
      · exact .inr (.inr (.inl (.inr ⟨opens, closes, noHost⟩)))
      · exact .inr (.inr (.inr ⟨given, noNumber⟩))
    · rintro (long | ⟨c, member, isControl⟩ | (⟨numeric, noHost⟩ | ⟨opens, closes, noHost⟩) |
        ⟨given, noNumber⟩)
      · exact .long long
      · exact .control member isControl
      · exact .numeric numeric noHost
      · exact .bracketed opens closes noHost
      · exact .port given noNumber
  rw [unfit]
  unfold check
  dsimp only
  split
  next long => simp [long, throw, throwThe, MonadExceptOf.throw, bind, Except.bind]
  next short =>
    split
    next c found =>
      have control : ∃ c ∈ address.toList, isControl c = true :=
        ⟨c, List.mem_of_find?_eq_some found, List.find?_some found⟩
      simp only [control, true_or, or_true, iff_true]
      exact ⟨_, rfl⟩
    next found =>
      have none : ¬∃ c ∈ address.toList, isControl c = true := by
        simpa using List.find?_eq_none.1 (Option.eq_none_iff_forall_ne_some.2 found)
      simp only [none, short, false_or]
      change (∃ fault, (checkHost (host address) >>= fun _ => checkPort (port address)) = _) ↔ _
      cases checkHost (host address) <;> simp [bind, Except.bind]

theorem check_eq_ok_iff : check address = .ok () ↔ ¬Unfit address := by
  rw [← exists_check_eq_error_iff]
  cases check address <;> simp

end Address

variable {web : Web} {follows : Bool} {address : String} {page : Page} {limit : Nat}

/-- A response that delivers a page does not point elsewhere. -/
theorem Response.redirection?_of_page {response : Response} (delivers : response.page = .ok page) :
    response.redirection? = none := by
  unfold Response.page at delivers
  split at delivers
  next success =>
    have other : ¬[301, 302, 303, 307, 308].contains response.status = true := by
      simp only [List.contains_iff_mem, List.mem_cons, List.not_mem_nil, or_false]
      omega
    rw [Response.redirection?, if_neg other]
  next => cases delivers

namespace Web

/-- A page that is delivered at once is also delivered where responses are followed. -/
theorem follow_of_request (requested : (web.request address).outcome = .ok page) :
    (web.follow limit address).outcome = .ok page := by
  unfold Web.request at requested
  unfold Web.follow
  cases answered : web.answer address with
  | noAddress | failure =>
      rw [answered] at requested
      cases requested
  | response response =>
      rw [answered] at requested
      dsimp only at requested ⊢
      rw [Response.redirection?_of_page requested]
      exact requested

theorem fetch_of_fetch (fetched : (web.fetch follows address).outcome = .ok page) :
    (web.fetch true address).outcome = .ok page := by
  cases follows with
  | true => exact fetched
  | false =>
      unfold Web.fetch at fetched ⊢
      cases checked : Address.check address with
      | error =>
          rw [checked] at fetched
          cases fetched
      | ok =>
          rw [checked] at fetched
          exact follow_of_request fetched

/-- The response from an address points to the next one. -/
inductive PointsTo (web : Web) (address next : String) : Prop where
  | intro {response : Response} {location : String}
      (answered : web.answer address = .response response)
      (points : response.redirection? = some location)
      (joined : nextAddress address location = .ok next) : PointsTo web address next

/-- So many responses, each of which points to the next address, lead from an address to another
one. -/
inductive Leads (web : Web) : Nat → String → String → Prop where
  | here (address : String) : Leads web 0 address address
  | on {count : Nat} {address next target : String} (points : web.PointsTo address next)
      (rest : Leads web count next target) : Leads web (count + 1) address target

variable {message : String}

theorem page_ne_address (response : Response) : response.page ≠ .error (.address message) := by
  unfold Response.page
  split <;> nofun

/-- There is nothing to request at the address itself, or where its response points to. -/
theorem follow_eq_address :
    (web.follow limit address).outcome = .error (.address message) ↔
      web.answer address = .noAddress message ∨
        ∃ less next, limit = less + 1 ∧ web.PointsTo address next ∧
          (web.follow less next).outcome = .error (.address message) := by
  rw [follow.eq_def]
  dsimp only
  constructor
  · intro failed
    split at failed
    next answered =>
      cases failed
      exact .inl answered
    next => cases failed
    next answered =>
      split at failed
      next => exact absurd failed (page_ne_address _)
      next points =>
        split at failed
        next => cases failed
        next => cases failed
        next less next joined => exact .inr ⟨less, next, rfl, .intro answered points joined, failed⟩
  · rintro (answered | ⟨less, next, rfl, ⟨answered, points, joined⟩, failed⟩)
    · rw [answered]
    · rw [answered]
      dsimp only
      rw [points]
      dsimp only
      rw [joined]
      exact failed

/-- Following responses fails for want of an address exactly where they lead, within the limit, to
one at which nothing can be requested. -/
theorem follow_eq_address_iff :
    (web.follow limit address).outcome = .error (.address message) ↔
      ∃ count target, count ≤ limit ∧ web.Leads count address target ∧
        web.answer target = .noAddress message := by
  constructor
  · intro failed
    induction limit generalizing address with
    | zero =>
        rcases follow_eq_address.1 failed with nothing | ⟨_, _, same, _⟩
        · exact ⟨0, address, Nat.le_refl 0, .here address, nothing⟩
        · cases same
    | succ limit ih =>
        rcases follow_eq_address.1 failed with nothing | ⟨_, next, ⟨⟩, points, failed⟩
        · exact ⟨0, address, Nat.zero_le _, .here address, nothing⟩
        · obtain ⟨count, target, few, leads, nothing⟩ := ih failed
          exact ⟨count + 1, target, Nat.succ_le_succ few, .on points leads, nothing⟩
  · rintro ⟨count, target, few, leads, nothing⟩
    induction leads generalizing limit with
    | here => exact follow_eq_address.2 (.inl nothing)
    | on points _ ih =>
        obtain ⟨less, rfl⟩ := Nat.exists_eq_add_one_of_ne_zero (Nat.ne_zero_of_lt few)
        exact follow_eq_address.2
          (.inr ⟨less, _, rfl, points, ih (Nat.le_of_succ_le_succ few) nothing⟩)

/-- Fetching fails for want of an address where the address is none, or where responses lead to one
at which nothing can be requested. -/
theorem fetch_eq_address_iff :
    (web.fetch true address).outcome = .error (.address message) ↔
      (∃ fault, Address.check address = .error fault ∧ message = fault.message) ∨
        Address.check address = .ok () ∧ ∃ count target, count ≤ redirectLimit ∧
          web.Leads count address target ∧ web.answer target = .noAddress message := by
  unfold fetch
  cases Address.check address with
  | error fault => simp [eq_comm]
  | ok => simp [follow_eq_address_iff]

end Web

end RouteTypes
