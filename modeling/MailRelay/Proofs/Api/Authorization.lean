import MailRelay.Proofs.Api.Answers
import MailRelay.Proofs.Text.Decoding
import Mathlib.Data.List.Forall2

set_option autoImplicit false

namespace MailRelay

namespace HeaderValue

def IsVisible (b : UInt8) : Prop :=
  32 ≤ b.toNat ∧ b.toNat < 127 ∨ b.toNat = 9

theorem encode_latin1 {v : Bytes} (ascii : ∀ b ∈ v, b.toNat < 128) : Utf8.encode (latin1 v) = v :=
  Utf8.encode_of_decode (Utf8.decode_ascii ascii)

theorem text?_eq_some_iff {v : Bytes} {text : String} :
    text? v = some text ↔ (∀ b ∈ v, IsVisible b) ∧ v = Utf8.ofString text := by
  have visible : (v.all fun b => (32 ≤ b && b < 127) || b == 9) = true ↔ ∀ b ∈ v, IsVisible b := by
    simp [IsVisible, UInt8.le_iff_toNat_le, UInt8.lt_iff_toNat_lt, ← UInt8.toNat_inj]
  have spelled (seen : ∀ b ∈ v, IsVisible b) : Utf8.ofString (String.ofList (latin1 v)) = v := by
    rw [Utf8.ofString_eq_encode, String.toList_ofList]
    refine encode_latin1 fun b member => ?_
    have range := seen b member
    unfold IsVisible at range
    omega
  rw [text?, ← visible]
  constructor
  · intro read
    split at read
    · next seen =>
      cases read
      exact ⟨seen, (spelled (visible.1 seen)).symm⟩
    · cases read
  · rintro ⟨seen, same⟩
    rw [if_pos seen, Option.some.injEq]
    exact Utf8.ofString_injective ((spelled (visible.1 seen)).trans same)

end HeaderValue

theorem Text.dropFront?_eq_some_iff {front s rest : List Char} :
    dropFront? front s = some rest ↔ s = front ++ rest := by
  unfold dropFront?
  constructor
  · intro dropped
    split at dropped
    · next starts =>
      cases dropped
      exact (List.prefix_iff_eq_append.1 (List.isPrefixOf_iff_prefix.1 starts)).symm
    · cases dropped
  · rintro rfl
    simp

namespace Api

-- What has been found of differences is never lost again.
theorem foldl_differences (pairs : List (UInt8 × UInt8)) (found : UInt8) :
    pairs.foldl (fun found (x, y) => found ||| (x ^^^ y)) found = 0 ↔
      found = 0 ∧ ∀ pair ∈ pairs, pair.1 = pair.2 := by
  induction pairs generalizing found with
  | nil => simp
  | cons pair pairs ih =>
    rw [List.foldl_cons, ih, UInt8.or_eq_zero_iff, UInt8.xor_eq_zero_iff, List.forall_mem_cons,
      and_assoc]

theorem eq_iff_zip {a b : Bytes} :
    a.length = b.length ∧ (∀ pair ∈ a.zip b, pair.1 = pair.2) ↔ a = b := by
  have pairwise : List.Forall₂ (fun x y => x = y) a b ↔ a = b := by rw [List.forall₂_eq_eq_eq]
  rw [← pairwise, List.forall₂_iff_zip, Prod.forall]

theorem isToken_iff {token candidate : String} :
    isToken token candidate = true ↔ token ≠ "" ∧ candidate = token := by
  have bytes : Utf8.ofString token = Utf8.ofString candidate ↔ candidate = token :=
    ⟨fun same => (Utf8.ofString_injective same).symm, fun same => same ▸ rfl⟩
  simp only [isToken, Bool.and_eq_true, Bool.not_eq_true', List.isEmpty_eq_false_iff, beq_iff_eq,
    foldl_differences, true_and, and_assoc, eq_iff_zip, bytes, ne_eq, Utf8.ofString_eq_nil_iff]

def Opens (token : String) (authorization : Option Bytes) : Prop :=
  token ≠ "" ∧ ∃ value, authorization = some value ∧ (∀ b ∈ value, HeaderValue.IsVisible b) ∧
    value = Utf8.ofString ("Bearer " ++ token)

theorem authorize_eq_ok_iff {token : String} {authorization : Option Bytes} :
    authorize token authorization = .ok () ↔ Opens token authorization := by
  have spelled (candidate : String) :
      ("Bearer " ++ candidate).toList = scheme.toList ++ candidate.toList := String.toList_append
  constructor
  · intro authorized
    unfold authorize at authorized
    split at authorized
    · cases authorized
    next value =>
    split at authorized
    · cases authorized
    next candidate named =>
    split at authorized
    · next accepted =>
      obtain ⟨set, rfl⟩ := isToken_iff.1 accepted
      obtain ⟨text, read, front⟩ := Option.bind_eq_some_iff.1 named
      obtain ⟨seen, rfl⟩ := HeaderValue.text?_eq_some_iff.1 read
      rw [Text.dropFront?_eq_some_iff] at front
      refine ⟨set, _, rfl, seen, congrArg Utf8.ofString (String.toList_inj.1 ?_)⟩
      rw [front, spelled, String.toList_ofList]
    · cases authorized
  · rintro ⟨set, value, rfl, seen, same⟩
    have read := HeaderValue.text?_eq_some_iff.2 ⟨seen, same⟩
    have front : Text.dropFront? scheme.toList ("Bearer " ++ token).toList = some token.toList :=
      Text.dropFront?_eq_some_iff.2 (spelled token)
    have accepted : isToken token token = true := isToken_iff.2 ⟨set, rfl⟩
    simp only [authorize, read, Option.bind_some, front, String.ofList_toList, accepted, if_true]

variable {s : ApiSettings} {request : HttpRequest} {route : Route}

theorem permitted_of_guarded (found : Route.ofTarget? request.target = some route)
    (guarded : route.isProtected = true) :
    permitted s request =
      match authorize s.token request.authorization with
      | .ok () => if route.allows request.method then .ok route else .error .methodNotAllowed
      | .error refusal => .error refusal := by
  unfold permitted
  rw [found]
  simp only [guarded, if_true]
  cases authorize s.token request.authorization <;> rfl

-- No handler refuses a request for its token.
theorem status_carryOut (stamps : Stamps) (uptimeSecs : Nat) (r : Reception) (route : Route) :
    (carryOut s stamps uptimeSecs r request route).2.status ≠ 401 := by
  cases route with
  | send =>
    rw [carryOut]
    split
    · unfold send
      split
      · simp [HttpResponse.json]
      · next e _ =>
        have known := status_mem_refusal e
        intro refused
        simp [show (refusal e).1 = 401 from refused] at known
    · next refused => simp [status_body refused]
  | sendBatch =>
    rw [carryOut]
    split
    · unfold sendBatch
      split <;> simp [HttpResponse.error, HttpResponse.json]
    · next refused => simp [status_body refused]
  | status segment =>
    have known := status_mem_status r segment
    intro refused
    simp [show (status r segment).status = 401 from refused] at known
  | stats | health => simp [carryOut, stats, health, HttpResponse.json]

theorem answer_parts (stamps : Stamps) (uptimeSecs : Nat) (r : Reception) (request : HttpRequest) :
    (answer s stamps uptimeSecs r request).1 = (respond s stamps uptimeSecs r request).1 ∧
      (answer s stamps uptimeSecs r request).2.status =
        (respond s stamps uptimeSecs r request).2.status := by
  unfold answer
  dsimp only
  split <;> exact ⟨rfl, rfl⟩

/-- A request to a protected route is carried out exactly if it brings the token along, and a token
is set; otherwise it is refused, and nothing changes. The comparison of tokens is equality. -/
theorem protected_routes_ask_for_the_token (stamps : Stamps) (uptimeSecs : Nat) (r : Reception)
    (found : Route.ofTarget? request.target = some route) (guarded : route.isProtected = true) :
    (permitted s request = .ok route ↔
      Opens s.token request.authorization ∧ route.allows request.method = true) ∧
    (Opens s.token request.authorization → route.allows request.method = true →
      respond s stamps uptimeSecs r request = carryOut s stamps uptimeSecs r request route) ∧
    ((answer s stamps uptimeSecs r request).2.status = 401 ↔
      ¬ Opens s.token request.authorization) ∧
    (¬ Opens s.token request.authorization → (answer s stamps uptimeSecs r request).1 = r) ∧
    ∀ candidate, isToken s.token candidate = true ↔ s.token ≠ "" ∧ candidate = s.token := by
  have whole := permitted_of_guarded (s := s) found guarded
  obtain ⟨same, status⟩ := answer_parts (s := s) stamps uptimeSecs r request
  rw [same, status, respond, ← authorize_eq_ok_iff, whole]
  cases authorized : authorize s.token request.authorization with
  | error refusal =>
    simp [status_authorize authorized, isToken_iff]
  | ok =>
    have carried := @status_carryOut s request stamps uptimeSecs r route
    by_cases allowed : route.allows request.method = true
    · simp [allowed, carried, isToken_iff]
    · simp [allowed, isToken_iff, HttpResponse.methodNotAllowed]

theorem token_with_another_end_is_refused :
    let settings := { ApiSettings.default with token := "abc" }
    let asked (value : String) : HttpRequest :=
      ⟨"GET", "/stats?all", some (Utf8.ofString value), none, []⟩
    let stamps : Stamps := fun n => ⟨toString n, .min, .min⟩
    let r := Reception.new .default (.new 1 .zero)
    Route.ofTarget? "/stats?all" = some .stats ∧ Route.stats.isProtected = true ∧
      Opens "abc" (some (Utf8.ofString "Bearer abc")) ∧ Route.stats.allows "GET" = true ∧
      respond settings stamps 0 r (asked "Bearer abc") = (r, stats r) ∧
      ¬ Opens "abc" (some (Utf8.ofString "Bearer abd")) ∧
      (answer settings stamps 0 r (asked "Bearer abd")).2.status = 401 ∧
      (answer settings stamps 0 r (asked "Bearer abd")).1 = r := by
  intro settings asked stamps r
  have found : Route.ofTarget? "/stats?all" = some .stats := by decide +kernel
  have opens : Opens "abc" (some (Utf8.ofString "Bearer abc")) :=
    ⟨by decide, _, rfl, HeaderValue.text?_eq_some_iff.1 (by decide)⟩
  have shut : ¬ Opens "abc" (some (Utf8.ofString "Bearer abd")) := by
    rintro ⟨-, value, same, -, spelled⟩
    cases same
    exact absurd spelled (by decide)
  have right := @protected_routes_ask_for_the_token settings (asked "Bearer abc") .stats
    stamps 0 r found rfl
  have wrong := @protected_routes_ask_for_the_token settings (asked "Bearer abd") .stats
    stamps 0 r found rfl
  exact ⟨found, rfl, opens, rfl, right.2.1 opens rfl, shut, wrong.2.2.1.2 shut,
    wrong.2.2.2.1 shut⟩

end Api

end MailRelay
