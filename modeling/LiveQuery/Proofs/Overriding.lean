import LiveQuery.Endpoint.Request
import Mathlib

/-!
# Headers of the caller over those of the handshake

The headers of the caller are set one after another over those of the handshake. Every name
stands in the request once, and of several values given for a name the last one counts
(`Request.values_build`). This goes for the header that asks for the sub-protocol like for any
other: the request asks for it exactly if no header of the caller says something else
(`Request.asks_for_subprotocol_iff`), and one that does takes its place
(`Request.subprotocol_overridden`).
-/

namespace LiveQuery

namespace Headers

/-- The values of a field, its name compared without regard to case. -/
def values (name : String) (headers : Headers) : List String :=
  (headers.filter fun field => fold field.1 = fold name).map Prod.snd

/-- The fields as a request keeps them: names in lower case, each at most once. -/
structure Kept (headers : Headers) : Prop where
  folded : ∀ field ∈ headers, fold field.1 = field.1
  distinct : (headers.map Prod.fst).Nodup

theorem fold_fold (name : String) : fold (fold name) = fold name := by
  have hchar : Char.toLower ∘ Char.toLower = Char.toLower := funext Char.toLower_toLower_eq_toLower
  rw [fold, fold, String.toList_ofList, List.map_map, hchar]

variable {headers : Headers} {name : String}

theorem values_cons (field : String × String) (headers : Headers) (name : String) :
    values name (field :: headers) =
      if fold field.1 = fold name then field.2 :: values name headers else values name headers := by
  unfold values
  by_cases h : fold field.1 = fold name <;> simp [h]

/-- A field that is nowhere among the names has no value. -/
theorem values_eq_nil (h : ∀ field ∈ headers, fold field.1 ≠ fold name) :
    values name headers = [] := by
  unfold values
  rw [List.filter_eq_nil_iff.2 fun field hfield => by simpa using h field hfield]
  rfl

/-- A field that is set is the new one or was there before. -/
theorem mem_set {field : String × String} {value : String} (h : field ∈ set name value headers) :
    field = (name, value) ∨ field ∈ headers := by
  induction headers with
  | nil => exact Or.inl (List.mem_singleton.1 h)
  | cons first rest ih =>
    obtain ⟨n, v⟩ := first
    unfold set at h
    split at h
    · next hn =>
      rcases List.mem_cons.1 h with rfl | h
      · exact Or.inl (by rw [hn])
      · exact Or.inr (List.mem_cons_of_mem _ h)
    · rcases List.mem_cons.1 h with rfl | h
      · exact Or.inr (List.mem_cons_self ..)
      · exact (ih h).imp_right (List.mem_cons_of_mem _)

namespace Kept

/-- The fields after the first are kept too. -/
theorem tail {field : String × String} (h : Kept (field :: headers)) : Kept headers :=
  ⟨fun f hf => h.folded f (List.mem_cons_of_mem _ hf), (List.nodup_cons.1 h.distinct).2⟩

/-- The name of the first field is not among the others. -/
theorem ne_first {field : String × String} (h : Kept (field :: headers)) :
    ∀ f ∈ headers, f.1 ≠ field.1 := fun _ hf heq =>
  (List.nodup_cons.1 h.distinct).1 (heq ▸ List.mem_map_of_mem hf)

/-- Setting a field whose name is in lower case keeps the fields. -/
theorem set (h : Kept headers) (value : String) (hname : fold name = name) :
    Kept (Headers.set name value headers) := by
  refine ⟨fun field hfield => ?_, ?_⟩
  · rcases mem_set hfield with rfl | hfield
    · exact hname
    · exact h.folded field hfield
  · induction headers with
    | nil => exact List.nodup_cons.2 ⟨List.not_mem_nil, List.nodup_nil⟩
    | cons first rest ih =>
      obtain ⟨n, v⟩ := first
      unfold Headers.set
      split
      · exact h.distinct
      · next hn =>
        refine List.nodup_cons.2 ⟨fun hmem => ?_, ih h.tail⟩
        obtain ⟨field, hfield, heq⟩ := List.mem_map.1 hmem
        rcases mem_set hfield with rfl | hfield
        · exact hn heq.symm
        · exact h.ne_first field hfield heq

/-- A field has the one value under its name in lower case, or none. -/
theorem values_eq (h : Kept headers) (name : String) :
    values name headers = (get? (fold name) headers).toList := by
  induction headers with
  | nil => rfl
  | cons first rest ih =>
    obtain ⟨n, v⟩ := first
    have hn : fold n = n := h.folded (n, v) (List.mem_cons_self ..)
    rw [values_cons, get?, hn]
    split
    · next heq =>
      have hrest : values name rest = [] := by
        refine values_eq_nil fun field hfield hfold => h.ne_first field hfield ?_
        rw [h.folded field (List.mem_cons_of_mem _ hfield)] at hfold
        exact hfold.trans heq.symm
      rw [hrest]
      rfl
    · exact ih h.tail

/-- Setting a field gives it that one value and leaves every other field alone. -/
theorem values_set (h : Kept headers) (n value name : String) :
    values name (Headers.set (fold n) value headers) =
      if fold n = fold name then [value] else values name headers := by
  rw [(h.set value (fold_fold n)).values_eq, get?_set, h.values_eq]
  by_cases heq : fold n = fold name
  · rw [if_pos heq, if_pos heq.symm]
    rfl
  · rw [if_neg heq, if_neg (Ne.symm heq)]

end Kept

end Headers

namespace Request

variable {key : String} {url : Url} {r r' : Request}

/-- The names of the headers of every handshake are in lower case and differ. -/
theorem kept_handshake (key : String) (url : Url) : (handshake key url).Kept := by
  have hnames : (handshake key url).map Prod.fst =
      ["host", "connection", "upgrade", "sec-websocket-version", "sec-websocket-key"] := rfl
  constructor
  · intro field hfield
    have hname : field.1 ∈ (handshake key url).map Prod.fst := List.mem_map_of_mem hfield
    rw [hnames] at hname
    revert hname
    generalize field.1 = name
    intro hname
    simp only [List.mem_cons, List.not_mem_nil, or_false] at hname
    rcases hname with rfl | rfl | rfl | rfl | rfl <;> decide
  · rw [hnames]
    decide

/-- The plain request carries the headers of every handshake, and asks for the sub-protocol. -/
theorem headers_plain (h : plain key url = .ok r) :
    r.headers = Headers.set subprotocolName subprotocol (handshake key url) := by
  unfold plain at h
  cases huri : uriOf url with
  | error e =>
    rw [huri] at h
    cases h
  | ok uri =>
    rw [huri] at h
    cases h
    rfl

theorem kept_plain (h : plain key url = .ok r) : r.headers.Kept := by
  rw [headers_plain h]
  exact (kept_handshake key url).set subprotocol (by decide)

/-- The headers of the caller are added to the plain request. -/
theorem build_of_plain {e : Endpoint} (h : plain key e.url = .ok r) :
    build key e = e.headers.foldlM withHeader r := by
  simp only [build, h]
  rfl

/-- A header that is added has a valid name and a valid value, and is set. -/
theorem headers_withHeader {header : String × String} (h : r.withHeader header = .ok r') :
    r'.headers = r.headers.set (Headers.fold header.1) header.2 := by
  obtain ⟨name, value⟩ := header
  unfold withHeader at h
  dsimp only at h
  split at h
  · cases h
  · split at h
    · cases h
    · cases h
      rfl

/-- Of the values given for a name the last one counts, and a name for which none was given keeps
what it had. -/
theorem values_foldlM {given : List (String × String)} (hkept : r.headers.Kept)
    (h : given.foldlM withHeader r = .ok r') (name : String) :
    r'.headers.values name = match (Headers.values name given).getLast? with
      | some value => [value]
      | none => r.headers.values name := by
  induction given generalizing r with
  | nil =>
    cases h
    rfl
  | cons header rest ih =>
    rw [List.foldlM_cons] at h
    cases hfirst : r.withHeader header with
    | error e =>
      rw [hfirst] at h
      cases h
    | ok r₁ =>
      rw [hfirst] at h
      have hset := headers_withHeader hfirst
      have hkept₁ : r₁.headers.Kept := by
        rw [hset]
        exact hkept.set header.2 (Headers.fold_fold header.1)
      rw [ih hkept₁ h, hset, hkept.values_set, Headers.values_cons]
      by_cases hname : Headers.fold header.1 = Headers.fold name
      · rw [if_pos hname, if_pos hname, List.getLast?_cons]
        cases (Headers.values name rest).getLast? <;> rfl
      · rw [if_neg hname, if_neg hname]

/-- The value of a name in a request is the last one that was given for it, or else that of the
handshake; the sub-protocol counts as given by the handshake. -/
theorem values_build {e : Endpoint} (h : build key e = .ok r) (name : String) :
    r.headers.values name = match (Headers.values name e.headers).getLast? with
      | some value => [value]
      | none => Headers.values name
          (Headers.set subprotocolName subprotocol (handshake key e.url)) := by
  cases hplain : plain key e.url with
  | error error =>
    simp only [build, hplain] at h
    cases h
  | ok r₁ =>
    rw [build_of_plain hplain] at h
    rw [values_foldlM (kept_plain hplain) h, headers_plain hplain]

/-- Every request carries one header for the sub-protocol, under any spelling of its name. It asks
for the sub-protocol exactly if the last header of the caller with that name, should there be one,
does. -/
theorem asks_for_subprotocol_iff (key : String) (e : Endpoint) {r : Request}
    (h : build key e = .ok r) :
    ∃ value, r.headers.values "Sec-WebSocket-Protocol" = [value] ∧
      (value = "graphql-transport-ws" ↔
        ∀ given ∈ (Headers.values "Sec-WebSocket-Protocol" e.headers).getLast?,
          given = "graphql-transport-ws") := by
  have hvalues := values_build h "Sec-WebSocket-Protocol"
  cases hgiven : (Headers.values "Sec-WebSocket-Protocol" e.headers).getLast? with
  | some given =>
    rw [hgiven] at hvalues
    exact ⟨given, hvalues, by simp⟩
  | none =>
    rw [hgiven] at hvalues
    refine ⟨subprotocol, hvalues.trans ?_, by simp [subprotocol]⟩
    -- none of the headers before it has its name
    have hfold : Headers.fold subprotocolName = subprotocolName := by decide
    rw [← hfold, (kept_handshake key e.url).values_set, if_pos (by decide)]

/-- An endpoint on the machine itself, with headers of the caller. -/
def loopback (headers : List (String × String)) : Endpoint where
  url :=
    { secure := false
      authority := { username := "", password := "", host := .ipv4 0x7F000001, port := some 4000 }
      path := ⟨["graphql"]⟩
      query := none
      fragment := none }
  headers := headers

example : Endpoint.parse "ws://127.0.0.1:4000/graphql" = .ok (loopback []) := by decide +kernel

/-- The last of two headers for the sub-protocol asks for it again. -/
theorem asks_for_subprotocol_again : ∃ r,
    build "AQIDBAUGBwgJCgsMDQ4PEA==" (loopback [("sec-websocket-protocol", "graphql-ws"),
      ("Sec-WebSocket-PROTOCOL", "graphql-transport-ws")]) = .ok r ∧
    r.headers.values "Sec-WebSocket-Protocol" = ["graphql-transport-ws"] := by
  generalize he : loopback _ = e
  have hbuild : (build "AQIDBAUGBwgJCgsMDQ4PEA==" e).toBool = true := by
    subst he
    decide +kernel
  have hgiven : (Headers.values "Sec-WebSocket-Protocol" e.headers).getLast? =
      some "graphql-transport-ws" := by
    subst he
    decide +kernel
  cases hr : build "AQIDBAUGBwgJCgsMDQ4PEA==" e with
  | error error =>
    rw [hr] at hbuild
    cases hbuild
  | ok r =>
    obtain ⟨value, hvalues, hiff⟩ := asks_for_subprotocol_iff _ e hr
    rw [hgiven] at hiff
    refine ⟨r, rfl, ?_⟩
    rw [hvalues, hiff.2 fun given h => (Option.some.inj h).symm]

/-- A header of the caller takes the place of the sub-protocol, which the request does not ask for
any more. -/
theorem subprotocol_overridden :
    (build "AQIDBAUGBwgJCgsMDQ4PEA==" (loopback [("Sec-WebSocket-Protocol", "graphql-ws")])).map
      (fun r => r.headers.values "Sec-WebSocket-Protocol") = .ok ["graphql-ws"] := by
  decide +kernel

end Request

end LiveQuery
