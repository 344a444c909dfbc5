import LiveQuery.Proofs.Overriding

/-!
# Requests with headers of the caller

What building a request comes to for every endpoint whose URL is short enough
(`Request.outcome_of_build`). A host that cannot stand in the URI of a request is refused before any
header is looked at. After that the headers of the caller are checked one by one, the name of each
before its value, and the first fault is the error. Without a fault there is a request: it has one
field for each name, compared without regard to case, with the last value that the caller gave for
it or else the value of the request without headers of the caller, and no other field.

The host goes first even if a header is at fault (`Request.unfit_host_first`).
-/

namespace LiveQuery

namespace Headers

/-- Can the name and the value stand in a request? -/
def Sound (field : String × String) : Prop := isName field.1 = true ∧ isValue field.2 = true

instance (field : String × String) : Decidable (Sound field) := inferInstanceAs (Decidable (_ ∧ _))

/-- The error about a field that is not sound: its name, or else its value under the name in lower
case. -/
def fault (field : String × String) : TransportError :=
  if isName field.1 then
    ⟨"invalid header value for " ++ fold field.1, "failed to parse header value"⟩
  else ⟨"invalid header name " ++ field.1, "invalid HTTP header name"⟩

/-- The last of the values given for a name, compared without regard to case. -/
def last? (name : String) (headers : Headers) : Option String := (values name headers).getLast?

/-- Fields that are kept have no value but the last one. -/
theorem Kept.values_eq_last? {headers : Headers} (h : headers.Kept) (name : String) :
    values name headers = (last? name headers).toList := by
  rw [last?, h.values_eq]
  cases get? (fold name) headers <;> rfl

end Headers

namespace Request

variable {key : String} {url : Url} {r : Request}

/-! ## The request without headers of the caller -/

theorem uriOf_of_unfit (hshort : url.write.length ≤ maxUriLength)
    (hhost : url.authority.writeHost.any isUnfit = true) :
    uriOf url = .error ⟨building, "HTTP format error: invalid uri character"⟩ := by
  simp only [uriOf, Nat.not_lt.2 hshort, hhost, if_false, if_true]

theorem uriOf_of_fit (hshort : url.write.length ≤ maxUriLength)
    (hhost : url.authority.writeHost.any isUnfit = false) :
    uriOf url = .ok ({ url with fragment := none } : Url).text := by
  simp [uriOf, Nat.not_lt.2 hshort, hhost]

theorem exists_plain (key : String) (hshort : url.write.length ≤ maxUriLength)
    (hhost : url.authority.writeHost.any isUnfit = false) : ∃ r, plain key url = .ok r := by
  simp only [plain, uriOf_of_fit hshort hhost]
  exact ⟨_, rfl⟩

/-! ## Adding headers -/

theorem withHeader_of_fault {field : String × String} (h : ¬ Headers.Sound field) :
    r.withHeader field = .error (Headers.fault field) := by
  obtain ⟨name, value⟩ := field
  cases hname : Headers.isName name with
  | false => simp [withHeader, Headers.fault, hname]
  | true =>
    have hvalue : Headers.isValue value = false := by simpa [Headers.Sound, hname] using h
    simp [withHeader, Headers.fault, hname, hvalue]

theorem withHeader_of_sound {field : String × String} (h : Headers.Sound field) :
    r.withHeader field =
      .ok { r with headers := r.headers.set (Headers.fold field.1) field.2 } := by
  simp [withHeader, h.1, h.2]

/-- Sound headers can all be added, and none of them touches the URI. -/
theorem foldlM_of_sound {given : List (String × String)}
    (h : ∀ field ∈ given, Headers.Sound field) :
    ∃ r', given.foldlM withHeader r = .ok r' ∧ r'.uri = r.uri := by
  induction given generalizing r with
  | nil => exact ⟨r, rfl, rfl⟩
  | cons field rest ih =>
    obtain ⟨hfield, hrest⟩ := List.forall_mem_cons.1 h
    rw [List.foldlM_cons, withHeader_of_sound hfield]
    obtain ⟨r', hr', huri⟩ := @ih { r with headers := _ } hrest
    exact ⟨r', hr', huri⟩

/-- The first header that is not sound is the error, whatever comes after it. -/
theorem foldlM_of_fault {before after : List (String × String)} {field : String × String}
    (hbefore : ∀ field ∈ before, Headers.Sound field) (hfield : ¬ Headers.Sound field) :
    (before ++ field :: after).foldlM withHeader r = .error (Headers.fault field) := by
  obtain ⟨r', hr', -⟩ := foldlM_of_sound (r := r) hbefore
  rw [List.foldlM_append, hr']
  show List.foldlM withHeader r' (field :: after) = .error (Headers.fault field)
  rw [List.foldlM_cons, withHeader_of_fault hfield]
  rfl

/-! ## The outcome -/

/-- What building the request to an endpoint comes to. -/
structure Outcome (key : String) (e : Endpoint) : Prop where
  /-- A host that cannot stand in a URI is refused, whatever the headers are. -/
  host : e.url.authority.writeHost.any isUnfit = true →
    build key e = .error ⟨building, "HTTP format error: invalid uri character"⟩
  /-- The first header that is not sound is the error. -/
  fault : e.url.authority.writeHost.any isUnfit = false →
    ∀ before field after, e.headers = before ++ field :: after →
      (∀ field ∈ before, Headers.Sound field) → ¬ Headers.Sound field →
        build key e = .error (Headers.fault field)
  /-- Sound headers stand in the request, the last one of each name over that of the request
  without headers of the caller. -/
  headers : e.url.authority.writeHost.any isUnfit = false →
    (∀ field ∈ e.headers, Headers.Sound field) →
      ∃ base r, build key { e with headers := [] } = .ok base ∧ build key e = .ok r ∧
        r.uri = base.uri ∧ ∀ name, r.headers.values name =
          ((Headers.last? name e.headers).or (Headers.last? name base.headers)).toList

/-- Building a request to an endpoint with a URL that is short enough fails with the host, or else
with the first header that is not sound, or else sets the last value of every name. -/
theorem outcome_of_build (key : String) (e : Endpoint)
    (hshort : e.url.write.length ≤ maxUriLength) : Outcome key e where
  host := by
    intro hhost
    simp only [build, plain, uriOf_of_unfit hshort hhost]
    rfl
  fault := by
    intro hhost before field after heq hbefore hfield
    obtain ⟨base, hbase⟩ := exists_plain key hshort hhost
    rw [build_of_plain hbase, heq]
    exact foldlM_of_fault hbefore hfield
  headers := by
    intro hhost hsound
    obtain ⟨base, hbase⟩ := exists_plain key hshort hhost
    obtain ⟨r, hr, huri⟩ := foldlM_of_sound (r := base) hsound
    refine ⟨base, r, ?_, ?_, huri, ?_⟩
    · exact build_of_plain (e := { e with headers := [] }) hbase
    · rw [build_of_plain hbase, hr]
    · -- the plain request has each name once, so that its only value is its last
      intro name
      have hkept : base.headers.Kept := kept_plain hbase
      rw [values_foldlM hkept hr, hkept.values_eq_last?]
      unfold Headers.last?
      cases (Headers.values name e.headers).getLast? <;> rfl

/-- The last of three headers with one name counts, and takes the place of the handshake's. -/
theorem outcome_of_repeated : ∃ r,
    build "AQIDBAUGBwgJCgsMDQ4PEA==" (loopback [("Host", "a"), ("X-Token", "1"), ("HOST", "b"),
      ("host", "c")]) = .ok r ∧
    r.headers.values "hOST" = ["c"] ∧ r.headers.values "x-token" = ["1"] := by
  generalize he : loopback _ = e
  have hshort : e.url.write.length ≤ maxUriLength := by
    subst he
    decide +kernel
  have hhost : e.url.authority.writeHost.any isUnfit = false := by
    subst he
    decide +kernel
  have hsound : ∀ field ∈ e.headers, Headers.Sound field := by
    subst he
    decide +kernel
  obtain ⟨base, r, -, hr, -, hvalues⟩ := (outcome_of_build _ e hshort).headers hhost hsound
  have hlast : Headers.last? "hOST" e.headers = some "c" := by
    subst he
    decide +kernel
  have htoken : Headers.last? "x-token" e.headers = some "1" := by
    subst he
    decide +kernel
  refine ⟨r, hr, ?_, ?_⟩
  · rw [hvalues, hlast]
    rfl
  · rw [hvalues, htoken]
    rfl

/-- The URL is short enough and the header has a bad name, but the error is that of the host. -/
theorem unfit_host_first :
    ∃ e, Endpoint.parse "ws://a\"b/" = .ok e ∧ e.url.write.length ≤ maxUriLength ∧
      ¬ Headers.Sound ("bad header", "v") ∧
      build "AQIDBAUGBwgJCgsMDQ4PEA==" (e.withHeader "bad header" "v") =
        .error ⟨building, "HTTP format error: invalid uri character"⟩ ∧
      build "AQIDBAUGBwgJCgsMDQ4PEA==" (e.withHeader "bad header" "v") ≠
        .error (Headers.fault ("bad header", "v")) := by
  have hparse : Endpoint.parse "ws://a\"b/" = .ok
      { url :=
          { secure := false
            authority := { username := "", password := "", host := .domain "a\"b", port := none }
            path := ⟨[""]⟩
            query := none
            fragment := none }
        headers := [] } := by
    decide +kernel
  exact ⟨_, hparse, by decide +kernel, by decide +kernel, by decide +kernel, by decide +kernel⟩

end Request

end LiveQuery
