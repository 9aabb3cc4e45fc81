import DefaultCredentials.Proofs.SingleRetry

/-!
# The header of authorization

A request for a caller is sent with the caller's headers and one more, `Authorization`, which
carries the token.  It replaces a header that the caller has under just this name.  Names of headers
ignore letter case, for the server and where answers are read, so a caller's header under another
spelling is a second one to the same effect, and it stays.

`Authorized.authorization_sent` says what headers go with every request that is not for a token, the
first one and the one after a refused token is replaced (`Authorized.Sending`).
-/

namespace DefaultCredentials

/-- Whether a header is one of authorization, letter case ignored. -/
def isAuthorization (header : String × String) : Bool :=
  Text.sameName header.1 "authorization"

theorem isAuthorization_put (value : String) : isAuthorization ("Authorization", value) = true := by
  have hname : Text.sameName "Authorization" "authorization" = true := by
    decide +kernel
  exact hname

namespace Authorized

variable {base headers : List (String × String)} {value : String}

theorem filter_perm {others : List (String × String)}
    (h : headers.Perm (("Authorization", value) :: others)) : (headers.filter isAuthorization).Perm
      (("Authorization", value) :: others.filter isAuthorization) := by
  have hfilter := h.filter isAuthorization
  rwa [List.filter_cons_of_pos (isAuthorization_put value)] at hfilter

/-- The caller has no header of authorization under another spelling. -/
theorem filter_erase_eq_nil_iff :
    (Entries.erase base "Authorization").filter isAuthorization = [] ↔
      ∀ e ∈ base, isAuthorization e = true → e.1 = "Authorization" := by
  rw [List.filter_eq_nil_iff]
  constructor
  · intro hnone e he hauthorization
    refine Classical.byContradiction fun hne => hnone e ?_ hauthorization
    rw [Entries.erase, List.mem_filter]
    exact ⟨he, by simpa using hne⟩
  · intro hall e he hauthorization
    rw [Entries.erase, List.mem_filter] at he
    have hne : e.1 ≠ "Authorization" := by simpa using he.2
    exact hne (hall e he.1 hauthorization)

/-- **The headers of a request.**  Whatever credential, transports and headers a caller has, nothing
is sent to either transport besides requests for tokens, if the first token cannot be had, and only
then.  Each request that is sent besides, the first one and the one after a refusal, has one header
`Authorization`, which carries the access token that the credential gives at that time, and for the
rest the caller's headers of other names.  Letter case ignored it has one header of authorization
more than the caller has under other spellings, so that there is just the one that carries the token
exactly if the caller has none. -/
theorem authorization_sent (c : Credential) (channel : Channel) (d : Draft) (m : Mappings)
    (h : Host) (hnames : ((d.headers.elim [] m.get).map (·.1)).Nodup) :
    let base := d.headers.elim [] m.get
    let others := Entries.erase base "Authorization"
    ∃ sent : List Request,
      (besidesIn c ((request c channel d m h).2.2.2.since h)).reverse =
        sent.map (Prod.mk channel) ∧
      (sent = [] ↔ ∃ why, (c.currentToken h).1 = .error why) ∧
      ∀ r ∈ sent, ∃ s answer s' token headers, Sending channel d base (c, h) s ∧
        Attempt channel d base s r answer s' ∧ (s.1.currentToken s.2).1 = .ok token ∧
        r.headers = some headers ∧
        headers.Perm (("Authorization", "Bearer " ++ token.plain) :: others) ∧
        (headers.filter isAuthorization).length = 1 + (others.filter isAuthorization).length ∧
        (headers.filter isAuthorization = [("Authorization", "Bearer " ++ token.plain)] ↔
          ∀ e ∈ base, isAuthorization e = true → e.1 = "Authorization") := by
  intro base others
  have hbase : d.entries m = base := d.entries_eq m
  obtain ⟨sent, hc⟩ := course_request c channel d m h
  have hsent : besidesIn c ((request c channel d m h).2.2.2.since h) =
      sent.reverse.map (Prod.mk channel) := hc.sendsFrom.filterMap_since
  rw [hbase] at hc
  refine ⟨sent, by rw [hsent, List.map_reverse, List.reverse_reverse], hc.eq_nil_iff,
    fun r hr => ?_⟩
  obtain ⟨s, answer, s', hsending, hattempt⟩ := hc.sending hr
  obtain ⟨t, host, hread, -, hrequest, -⟩ := id hattempt
  have hperm : (Entries.put base "Authorization" (Credential.bearer t.accessToken)).Perm
      (("Authorization", "Bearer " ++ t.accessToken.plain) :: others) :=
    Entries.put_perm hnames _ _
  have hfilter := filter_perm hperm
  refine ⟨s, answer, s', t.accessToken, _, hsending, hattempt, by rw [hread], by rw [hrequest]; rfl,
    hperm, ?_, ?_⟩
  · rw [hfilter.length_eq, List.length_cons, Nat.add_comm]
  · rw [← filter_erase_eq_nil_iff]
    -- Only the number of headers is told by the permutation, unless there is just one.
    constructor
    · intro hone
      have hlength := hfilter.length_eq
      rw [hone] at hlength
      simpa using hlength
    · intro hnil
      rw [hnil] at hfilter
      exact List.perm_singleton.mp hfilter

/-- A credential that gives one token and then another. -/
def sequence : Credential :=
  Credential.fresh (.custom "sequence" "SequenceCredential"
    [.ok ⟨.text "old", none, []⟩, .ok ⟨.text "new", none, []⟩]) .main .json [] .standard

/-- A host whose transport has an answer that refuses a token, and one that does not. -/
def refusingOnce : Host :=
  { Host.empty with main := [.ok ⟨401, [], []⟩, .ok ⟨200, [], []⟩] }

/-- All requests that are sent on that host for a caller of that credential with some headers. -/
def sentWith (own : List (String × String)) : List (Channel × Request) :=
  let after := request sequence .main ⟨"GET", .text "https://host/", some 0, none, none⟩ ⟨[own]⟩
    refusingOnce
  ((after.2.2.2.since refusingOnce).filterMap Happening.sent?).reverse

/-- A header under just this name is replaced, before the refusal and after it. -/
theorem authorization_sent_replaced :
    let own := [("Authorization", "Basic c"), ("a", "b")]
    (own.map (·.1)).Nodup ∧
      (sentWith own).map (·.2.headers) = [some [("Authorization", "Bearer old"), ("a", "b")],
        some [("Authorization", "Bearer new"), ("a", "b")]] ∧
      ∀ x ∈ sentWith own, ∃ headers token, x.2.headers = some headers ∧
        headers.filter isAuthorization = [("Authorization", "Bearer " ++ token)] := by
  intro own
  have hnames : (own.map (·.1)).Nodup := by
    decide
  refine ⟨hnames, rfl, fun x hx => ?_⟩
  obtain ⟨sent, hsent, -, hall⟩ := authorization_sent sequence .main
    ⟨"GET", .text "https://host/", some 0, none, none⟩ ⟨[own]⟩ refusingOnce hnames
  rw [besidesIn_of_custom rfl] at hsent
  rw [sentWith, hsent] at hx
  obtain ⟨r, hr, rfl⟩ := List.mem_map.mp hx
  obtain ⟨s, answer, s', token, headers, -, -, -, hheaders, -, -, hone⟩ := hall r hr
  have hown : ∀ e ∈ own, isAuthorization e = true → e.1 = "Authorization" := by
    decide +kernel
  exact ⟨headers, token.plain, hheaders, hone.mpr hown⟩

/-- A header under another spelling is not: there are two of authorization then, each time. -/
theorem authorization_sent_twice :
    (sentWith [("authorization", "Basic c")]).map (·.2.headers) =
        [some [("authorization", "Basic c"), ("Authorization", "Bearer old")],
          some [("authorization", "Basic c"), ("Authorization", "Bearer new")]] ∧
      ∀ x ∈ sentWith [("authorization", "Basic c")], ∀ headers, x.2.headers = some headers →
        (headers.filter isAuthorization).length = 2 := by
  have hsent : (sentWith [("authorization", "Basic c")]).map (·.2.headers) =
      [some [("authorization", "Basic c"), ("Authorization", "Bearer old")],
        some [("authorization", "Basic c"), ("Authorization", "Bearer new")]] := rfl
  refine ⟨hsent, fun x hx headers hheaders => ?_⟩
  have hmem : some headers ∈ (sentWith [("authorization", "Basic c")]).map (·.2.headers) :=
    List.mem_map.mpr ⟨x, hx, hheaders⟩
  rw [hsent] at hmem
  simp only [List.mem_cons, Option.some.injEq, List.not_mem_nil, or_false] at hmem
  rcases hmem with rfl | rfl <;> decide +kernel

end Authorized
end DefaultCredentials
