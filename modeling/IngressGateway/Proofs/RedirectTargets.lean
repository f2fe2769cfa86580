import IngressGateway.Filter.Redirect
import Mathlib.Data.List.TakeWhile

/-!
Where the redirect of a URL leads. Whether a URL goes on after its server is read off its text, and all the
rest from the URL that the text writes. The two agree on a text that writes the server after the first colon
and two slashes and does not end it with a backslash.
-/

set_option autoImplicit false

namespace IngressGateway.Url.Hosted

/-- The URL asks for more than the root of its server. -/
def GoesOn (url : Hosted) : Prop := url.path ≠ "/" ∨ url.query.isSome ∨ url.fragment.isSome

instance (url : Hosted) : Decidable url.GoesOn := by unfold GoesOn; infer_instance

/-- What a URL asks its server for: the path, the query behind a question mark and the fragment behind a number sign. -/
def asked (url : Hosted) : String :=
  match url.query, url.fragment with
  | none, none => url.path
  | some query, none => url.path ++ "?" ++ query
  | none, some fragment => url.path ++ "#" ++ fragment
  | some query, some fragment => url.path ++ "?" ++ query ++ "#" ++ fragment

/-- The server follows the first colon and two slashes, and no backslash ends it. -/
def IsPlain (raw : String) : Prop :=
  ∃ scheme rest : List Char, raw.toList = scheme ++ ':' :: '/' :: '/' :: rest ∧ ':' ∉ scheme ∧
    '\\' ∉ rest.takeWhile fun c => !endsAuthority .other c

example : IsPlain "https://shop.example.com/new?from=old" :=
  ⟨"https".toList, "shop.example.com/new?from=old".toList, by decide, by decide, by decide⟩

/-! ### The parts of the text -/

theorem dropWhile_append_kept {p : Char → Bool} {c : Char} (hc : p c = false) (a b : List Char) :
    (a ++ c :: b).dropWhile p = a.dropWhile p ++ c :: b := by
  rw [List.dropWhile_append]
  cases ha : a.dropWhile p <;> simp [hc]

theorem exists_clean (a b : List Char) :
    ∃ a' b', clean (a ++ ':' :: '/' :: '/' :: b) = a' ++ ':' :: '/' :: '/' :: b' ∧ a' ⊆ a ∧ b' ⊆ b := by
  -- Nothing of the colon and the two slashes is dropped, from whichever end.
  have start := dropWhile_append_kept (p := isOuter) (c := ':') (by decide) a ('/' :: '/' :: b)
  have stop := dropWhile_append_kept (p := isOuter) (c := '/') (by decide) b.reverse
    ('/' :: ':' :: (a.dropWhile isOuter).reverse)
  refine ⟨(a.dropWhile isOuter).filter fun c => !isIgnored c,
    (b.reverse.dropWhile isOuter).reverse.filter fun c => !isIgnored c, ?_, ?_, ?_⟩
  · have kept : isIgnored ':' = false ∧ isIgnored '/' = false := by decide
    unfold clean
    rw [start]
    simp [stop, kept]
  · exact (List.filter_sublist.trans (List.dropWhile_sublist _)).subset
  · intro c hc
    have hc := List.mem_reverse.1 (List.mem_filter.1 hc).1
    exact List.mem_reverse.1 ((List.dropWhile_sublist _).subset hc)

theorem rest_of_readScheme? {a rest after : List Char} {scheme : String} (ha : ':' ∉ a)
    (h : readScheme? (a ++ ':' :: rest) = some (scheme, after)) : after = rest := by
  have shape := dropWhile_append_kept (p := isSchemeChar) (c := ':') (by decide) a rest
  unfold readScheme? at h
  split at h
  · cases h
  · split at h
    · split at h
      · rename_i left heq
        rw [shape] at heq
        -- The scheme ends at a colon, and there is none before this one.
        cases hd : a.dropWhile isSchemeChar with
        | nil => simp_all
        | cons d a' =>
          have hd' : d ∈ a := (List.dropWhile_sublist _).subset (by rw [hd]; simp)
          simp_all
      · cases h
    · cases h

theorem after?_of_plain {scheme : List Char} (hs : ':' ∉ scheme) (rest : List Char) :
    Text.after? "://".toList (scheme ++ ':' :: '/' :: '/' :: rest) = some rest := by
  induction scheme with
  | nil => simp [Text.after?, Text.stripStart?]
  | cons c scheme ih =>
    obtain ⟨hc, hs⟩ : ':' ≠ c ∧ ':' ∉ scheme := by simpa using hs
    simpa [Text.after?, Text.stripStart?, hc] using ih hs

/-! ### The server -/

theorem subset_of_cutLast? {sep : Char} {s start stop : List Char}
    (h : Text.cutLast? sep s = some (start, stop)) : stop ⊆ s := by
  obtain ⟨rfl, -⟩ := Text.eq_of_cutLast? h
  exact List.subset_append_of_subset_right start (List.subset_cons_self sep stop)

theorem cutAuthority_of_unended {kind : SchemeKind} {s : List Char}
    (h : ∀ c ∈ s, endsAuthority kind c = false) :
    (cutAuthority kind s).1 ⊆ s ∧ (cutAuthority kind s).2 = [] := by
  have whole : s.takeWhile (fun c => !endsAuthority kind c) = s :=
    List.takeWhile_eq_self_iff.2 fun c hc => by simp [h c hc]
  have hrest : s.dropWhile (fun c => !endsAuthority kind c) = [] :=
    List.dropWhile_eq_nil_iff.2 fun c hc => by simp [h c hc]
  simp only [cutAuthority, whole, hrest]
  split
  · rename_i user server cut
    exact ⟨subset_of_cutLast? cut, rfl⟩
  · exact ⟨List.Subset.refl s, rfl⟩

theorem cutHost_port (inside : Bool) (s : List Char) :
    (cutHost inside s).2 = [] ∨ ∃ t, (cutHost inside s).2 = ':' :: t ∧ t ⊆ s := by
  induction s generalizing inside with
  | nil => simp [cutHost]
  | cons c s ih =>
    unfold cutHost
    split
    · rename_i here
      exact .inr ⟨s, by rw [here.1], List.subset_cons_self c s⟩
    · rcases ih (if c = '[' then true else if c = ']' then false else inside) with bare | ⟨t, ht, sub⟩
      · exact .inl bare
      · exact .inr ⟨t, ht, List.Subset.trans sub (List.subset_cons_self c s)⟩

theorem left_of_readPort? {s left : List Char} {port : Option Unsigned16} (hs : '\\' ∉ s)
    (h : readPort? (':' :: s) = some (port, left)) : left = [] := by
  unfold readPort? at h
  simp only at h
  split at h
  · obtain ⟨_, -, h⟩ := Option.map_eq_some_iff.1 h
    exact (Prod.ext_iff.1 h).2.symm
  · rename_i after heq
    have : '\\' ∈ s := (List.dropWhile_sublist _).subset (by rw [heq]; simp)
    exact absurd this hs
  · cases h

theorem exists_build {scheme : String} {kind : SchemeKind} {s : List Char} {url : Hosted}
    (h : readServer? scheme kind s = some url) :
    ∃ host port left, readPort? (cutHost false (cutAuthority kind s).1).2 = some (port, left) ∧
      build scheme kind host port (left ++ (cutAuthority kind s).2) = url := by
  have built (read : Option Host)
      (h : (read.bind fun host => (readPort? (cutHost false (cutAuthority kind s).1).2).bind fun p =>
        some (build scheme kind host p.1 (p.2 ++ (cutAuthority kind s).2))) = some url) :
      ∃ host port left, readPort? (cutHost false (cutAuthority kind s).1).2 = some (port, left) ∧
        build scheme kind host port (left ++ (cutAuthority kind s).2) = url := by
    obtain ⟨host, -, h⟩ := Option.bind_eq_some_iff.1 h
    obtain ⟨⟨port, left⟩, hp, h⟩ := Option.bind_eq_some_iff.1 h
    exact ⟨host, port, left, hp, Option.some.inj h⟩
  unfold readServer? at h
  simp only [Option.bind_eq_bind] at h
  -- The two kinds of hosts are read differently, but all the rest is read the same way.
  split at h <;> exact built _ h

/-- A server that nothing ends is all that the URL asks for. -/
theorem not_goesOn_of_readServer? {scheme : String} {s : List Char} {url : Hosted}
    (hs : ∀ c ∈ s, endsAuthority .web c = false) (h : readServer? scheme .web s = some url) :
    ¬url.GoesOn := by
  obtain ⟨sub, hrest⟩ := cutAuthority_of_unended hs
  obtain ⟨host, port, left, hp, rfl⟩ := exists_build h
  have left_nil : left = [] := by
    rcases cutHost_port false (cutAuthority .web s).1 with bare | ⟨t, ht, ht_sub⟩
    · rw [bare] at hp
      exact (show port = none ∧ left = [] by simpa [readPort?, eq_comm] using hp).2
    · rw [ht] at hp
      refine left_of_readPort? (fun hc => ?_) hp
      simpa [endsAuthority] using hs _ (sub (ht_sub hc))
  have root : String.ofList (joinSegments (readPathText .web [])) = "/" := by decide
  rw [left_nil, hrest]
  simp [GoesOn, build, cutPath, readTail, root]

/-! ### The URL -/

theorem port_of_readServer? {scheme : String} {kind : SchemeKind} {s : List Char} {url : Hosted}
    (h : readServer? scheme kind s = some url) :
    url.scheme = scheme ∧ ∃ port, url.port = notable scheme port := by
  obtain ⟨host, port, left, -, rfl⟩ := exists_build h
  exact ⟨rfl, port, rfl⟩

theorem port_of_readFile? {s : List Char} {url : Hosted} (h : readFile? s = some url) :
    url.scheme = "file" ∧ ∃ port, url.port = notable "file" port := by
  unfold readFile? at h
  simp only [Option.bind_eq_bind] at h
  split at h
  · cases h
  · obtain ⟨host, -, h⟩ := Option.bind_eq_some_iff.1 h
    split at h
    · cases h
    · obtain ⟨segments, -, h⟩ := Option.bind_eq_some_iff.1 h
      obtain rfl := Option.some.inj h
      exact ⟨rfl, none, rfl⟩

theorem kindOf_eq_file {scheme : String} (h : kindOf scheme = .file) : scheme = "file" := by
  unfold kindOf at h
  split_ifs at h with named
  exact named

theorem read?_parts {raw : String} {url : Hosted} (h : read? raw = some url) :
    ∃ rest, readScheme? (clean raw.toList) = some (url.scheme, rest) ∧
      (kindOf url.scheme = .web → readServer? url.scheme .web (rest.dropWhile isSlash) = some url) ∧
      ∃ port, url.port = notable url.scheme port := by
  unfold read? at h
  simp only [Option.bind_eq_bind] at h
  obtain ⟨⟨scheme, rest⟩, hs, h⟩ := Option.bind_eq_some_iff.1 h
  refine ⟨rest, ?_⟩
  cases kind : kindOf scheme with
  | web =>
    simp only [kind] at h
    obtain ⟨rfl, port⟩ := port_of_readServer? h
    exact ⟨hs, fun _ => h, port⟩
  | file =>
    simp only [kind] at h
    split at h
    · split at h
      · obtain ⟨hscheme, port⟩ := port_of_readFile? h
        obtain rfl := kindOf_eq_file kind
        rw [hscheme]
        exact ⟨hs, fun web => absurd web (by decide), port⟩
      · cases h
    · cases h
  | other =>
    simp only [kind] at h
    split at h
    · obtain ⟨rfl, port⟩ := port_of_readServer? h
      exact ⟨hs, fun web => absurd (kind.symm.trans web) (by decide), port⟩
    · cases h

/-- The port of a URL is never the one that goes without saying. -/
theorem port_ne_default {raw : String} {url : Hosted} (h : read? raw = some url) {p : Unsigned16}
    (hp : url.port = some p) {d : Nat} (hd : defaultPort? url.scheme = some d) : p.val ≠ d := by
  obtain ⟨-, -, -, port, shown⟩ := read?_parts h
  rw [hp, notable, eq_comm, Option.filter_eq_some_iff] at shown
  simpa [hd] using shown.2

/-- A plain text whose server nothing ends writes a URL that asks for no more than the server. -/
theorem not_goesOn_of_plain {raw : String} {url : Hosted} (h : read? raw = some url)
    (web : kindOf url.scheme = .web) {scheme rest : List Char}
    (text : raw.toList = scheme ++ ':' :: '/' :: '/' :: rest) (hs : ':' ∉ scheme)
    (unended : ∀ c ∈ rest, endsAuthority .web c = false) : ¬url.GoesOn := by
  obtain ⟨after, read, server, -⟩ := read?_parts h
  obtain ⟨scheme', rest', cleaned, scheme_sub, rest_sub⟩ := exists_clean scheme rest
  rw [text, cleaned] at read
  obtain rfl := rest_of_readScheme? (fun hc => hs (scheme_sub hc)) read
  refine not_goesOn_of_readServer? (fun c hc => ?_) (server web)
  have slashes : ('/' :: '/' :: rest').dropWhile isSlash = rest'.dropWhile isSlash := by
    simp [isSlash]
  rw [slashes] at hc
  exact unended c (rest_sub ((List.dropWhile_sublist _).subset hc))

end IngressGateway.Url.Hosted

namespace IngressGateway.Filter

open Gateway (HttpFilter RequestRedirect)
open Url (Hosted)

/-- What a redirect takes from the text of its URL. A text that writes no URL with a host is the path as it
stands. -/
structure KeepsTarget (raw : String) (r : RequestRedirect) : Prop where
  whole : Hosted.read? raw = none →
    r.scheme = none ∧ r.hostname = none ∧ r.port = none ∧ r.path = some (.full raw)
  scheme : ∀ url, Hosted.read? raw = some url →
    (url.scheme = "http" → r.scheme = some .http) ∧ (url.scheme = "https" → r.scheme = some .https)
  server : ∀ url, Hosted.read? raw = some url →
    r.hostname = some url.host ∧ r.port = url.port.map Unsigned16.toSigned32 ∧
      ∀ p, url.port = some p → ∀ d, Url.defaultPort? url.scheme = some d → p.val ≠ (d : Nat)
  written : ∀ url, Hosted.read? raw = some url →
    r.path = if hasWrittenPath raw then some (.full url.asked) else none
  goesOn : ∀ url, Hosted.read? raw = some url → url.scheme = "http" ∨ url.scheme = "https" →
    url.GoesOn → Hosted.IsPlain raw → r.path = some (.full url.asked)

theorem target_eq_asked (url : Hosted) : target url = url.asked := by
  obtain ⟨scheme, host, port, path, query, fragment⟩ := url
  cases query <;> cases fragment <;> simp [target, Hosted.asked, String.append_assoc]

theorem hasWrittenPath_of_plain {raw : String} {url : Hosted} (h : Hosted.read? raw = some url)
    (web : Url.kindOf url.scheme = .web) (goesOn : url.GoesOn) (plain : Hosted.IsPlain raw) :
    hasWrittenPath raw = true := by
  obtain ⟨scheme, rest, text, hs, unslashed⟩ := plain
  -- Unless something shows that the text goes on, nothing ends the server, not even a backslash.
  by_contra unwritten
  have open_end : ∀ c ∈ rest, Hosted.endsAuthority .other c = false := by
    rw [hasWrittenPath, text, Hosted.after?_of_plain hs] at unwritten
    simpa [Hosted.endsAuthority, and_assoc] using unwritten
  rw [List.takeWhile_eq_self_iff.2 fun c hc => by simp [open_end c hc]] at unslashed
  refine Hosted.not_goesOn_of_plain h web text hs (fun c hc => ?_) goesOn
  have not_backslash : c ≠ '\\' := fun equal => unslashed (equal ▸ hc)
  simpa [Hosted.endsAuthority, not_backslash] using open_end c hc

theorem value_redirect (raw : String) (code : Option Unsigned16) (source : ObjectRef) :
    (redirect raw code source).value = .redirect (match Hosted.read? raw with
      | none => redirectWithin raw (redirectStatus code)
      | some url => redirectTo raw url (redirectStatus code)) := by
  cases h : Hosted.read? raw with
  | none => simp only [redirect, h]; split_ifs <;> rfl
  | some url => simp only [redirect, h]; split_ifs <;> rfl

/-- A redirect leads to the server of its URL, and to all of the URL if the text is plain. -/
theorem keepsTarget_redirect (raw : String) (code : Option Unsigned16) (source : ObjectRef) :
    ∃ r, (redirect raw code source).value = .redirect r ∧ KeepsTarget raw r := by
  refine ⟨_, value_redirect raw code source, ?_⟩
  cases h : Hosted.read? raw with
  | none => exact ⟨fun _ => ⟨rfl, rfl, rfl, rfl⟩, by simp [h], by simp [h], by simp [h], by simp [h]⟩
  | some url =>
    have same {other : Hosted} (hother : Hosted.read? raw = some other) : url = other :=
      Option.some.inj (h.symm.trans hother)
    constructor
    case whole => simp [h]
    case scheme =>
      intro other hother
      obtain rfl := same hother
      exact ⟨fun http => by simp [redirectTo, schemeOf?, http],
        fun https => by simp [redirectTo, schemeOf?, https]⟩
    case server =>
      intro other hother
      obtain rfl := same hother
      exact ⟨rfl, rfl, fun p hp d hd => Hosted.port_ne_default h hp hd⟩
    case written =>
      intro other hother
      obtain rfl := same hother
      rw [← target_eq_asked]
      rfl
    case goesOn =>
      intro other hother named goesOn plain
      obtain rfl := same hother
      have web : Url.kindOf url.scheme = .web := by
        rcases named with http | https
        · rw [http]; decide
        · rw [https]; decide
      simp [redirectTo, hasWrittenPath_of_plain h web goesOn plain, target_eq_asked]

/-- One slash names a server as well as two do, but the redirect loses what follows the server. -/
theorem path_lost_behind_one_slash :
    ∃ url, Hosted.read? "http:/[2001:db8::1]/new" = some url ∧ url.scheme = "http" ∧ url.GoesOn ∧
      url.asked = "/new" ∧
      ∀ code source r, (redirect "http:/[2001:db8::1]/new" code source).value = .redirect r →
        r.path = none := by
  have parsed : Hosted.read? "http:/[2001:db8::1]/new" =
      some ⟨"http", "[2001:db8::1]", none, "/new", none, none⟩ := by decide +kernel
  refine ⟨_, parsed, rfl, by decide, by decide, fun code source r h => ?_⟩
  rw [value_redirect, parsed] at h
  obtain rfl := HttpFilter.redirect.inj h
  have unwritten : hasWrittenPath "http:/[2001:db8::1]/new" = false := by decide
  simp [redirectTo, unwritten]

end IngressGateway.Filter
