import IngressGateway.Proofs.RouteKeys

/-!
Redirects to encrypted sites. A redirect route takes the plain requests for a virtual server; the other
routes of the server are on its encrypted listener, and that is where the redirect leads. The sections of a
server tell both listeners and the port. Other servers of the namespace may share the listeners, but not
change what their names say.
-/

set_option autoImplicit false

namespace IngressGateway

open Gateway (GrpcRouteSpec HttpRoute HttpRouteSpec Listener ParentRef RequestRedirect)
open Ingress (VirtualServer)
open Routing (AssembledRoutes)

/-! ### Where a redirect leads -/

namespace Routing

def redirectsIn (r : HttpRoute) : List RequestRedirect :=
  r.spec.rules.flatMap fun rule => rule.filters.filterMap fun
    | .redirect q => some q
    | _ => none

def targetPort (q : RequestRedirect) : Int :=
  (q.port.map Subtype.val).getD Settings.usualHttpsPort.val

theorem targetPort_toEncrypted (port : Unsigned16) (code : Option Unsigned16) :
    targetPort (toEncrypted port code) = port.val := by
  unfold targetPort toEncrypted
  dsimp only
  split
  case isTrue h => rw [h]; rfl
  case isFalse => rfl

end Routing

/-- All references of a route are to one listener of the gateway of the namespace. -/
structure IsOn {σ : Type} (parents : σ → List ParentRef) (ns : String) (l : Listener)
    (r : Resource σ) : Prop where
  namespaceOf : r.namespaceOf = ns
  parents : parents r.spec = [Routing.parentOf ns (some l.name)]

/-- A redirect route is on the plain listener of a gateway and leads to the encrypted one, which is another
one and has the assembled routes. -/
structure LeadsTo (b : Bundle) (a : AssembledRoutes) (r : HttpRoute) (g : Gateway.Gateway)
    (plain encrypted : Listener) : Prop where
  found : b.gateways.get? ⟨r.namespaceOf, r.namespaceOf ++ "-gateway"⟩ = some g
  plain_mem : plain ∈ g.spec.listeners
  encrypted_mem : encrypted ∈ g.spec.listeners
  plain_protocol : plain.protocol = .http
  encrypted_protocol : encrypted.protocol = .https
  name_ne : plain.name ≠ encrypted.name
  redirectRoute : IsOn HttpRouteSpec.parentRefs r.namespaceOf plain r
  httpRoute : ∀ m ∈ a.httpRoute, IsOn HttpRouteSpec.parentRefs r.namespaceOf encrypted m
  grpcRoute : ∀ m ∈ a.grpcRoute, IsOn GrpcRouteSpec.parentRefs r.namespaceOf encrypted m
  scheme : ∀ q ∈ Routing.redirectsIn r, q.scheme = some .https
  port : (Routing.redirectsIn r).map Routing.targetPort = [encrypted.port.val]

/-! ### The listeners of a site -/

namespace Listeners

variable (ports : NamedPorts) (settings : Settings)

theorem protocol_of_httpListener? {vs : VirtualServer} {port : Unsigned16} {l : Listener}
    (h : httpListener? vs port = some l) : l.protocol = .http := by
  unfold httpListener? at h
  split at h
  · cases h
    rfl
  · cases h

theorem of_httpsListener? {vs : VirtualServer} {port : Unsigned16} {l : Listener}
    (h : httpsListener? vs port = some l) : l.protocol = .https ∧ l.port = port := by
  obtain ⟨secret, _, rfl⟩ := Option.map_eq_some_iff.1 h
  exact ⟨rfl, rfl⟩

theorem exists_kept_of_request {vss : List (ObjectRef × VirtualServer)}
    {tss : List (ObjectRef × Ingress.TransportServer)} {l : Listener}
    (h : l ∈ requests ports settings vss tss) :
    ∃ l' ∈ (firstOfEach .empty (requests ports settings vss tss)).values,
      l'.name = l.name ∧ l'.protocol = l.protocol ∧ l'.port = l.port := by
  obtain ⟨l', hkept, hname, _⟩ := exists_listener_of_request ports settings vss tss h
  have hmem := List.mem_of_find?_eq_some (mem_values_firstOfEach.1 hkept)
  exact ⟨l', hkept, hname, (isNamed_requests ports settings vss tss h).agree
    (isNamed_requests ports settings vss tss hmem) hname⟩

end Listeners

namespace Conversion

open Listeners (Sections siteListeners)

variable (input : Snapshot) (settings : Settings)

/-- The virtual servers that a conversion comes to, each with the routes that it assembles for it. -/
def assembled : List (VirtualServer × Option AssembledRoutes) :=
  (groupByNamespace input).value.entries.flatMap fun g =>
    (g.2.virtualServers.map Prod.snd).zip
      (convertNamespace (contextOf input settings) g.1 g.2).value.routes

def sectionsOf (vs : VirtualServer) : Sections :=
  foundSections (contextOf input settings) (virtualServersIn input vs.namespaceOf) vs

def routesFor (vs : VirtualServer) : AssembledRoutes :=
  Routing.serverRoutes (contextOf input settings).index settings vs (sectionsOf input settings vs)

/-- The redirects of a bundle: each was assembled for a virtual server, and leads to the listener of all
routes that are assembled under the key of that server. -/
structure RedirectsSoundly (b : Bundle) : Prop where
  stored : ∀ key r, b.httpRoutes.get? key = some r →
    (∃ owner, key.name = owner ++ "-redirect") →
      ∃ vs a, (vs, some a) ∈ assembled input settings ∧ a.redirectRoute = some r ∧
        key = vs.keyWith "-redirect"
  leads : ∀ vs a r, (vs, some a) ∈ assembled input settings → a.redirectRoute = some r →
    ∀ vs' a', (vs', some a') ∈ assembled input settings → vs'.key = vs.key →
      ∃ g plain encrypted, LeadsTo b a' r g plain encrypted
  /-- Among convertible servers with names of their own, a redirect is for those that ask for one and have a
  certificate. -/
  produced : ∀ vs ∈ input.virtualServers, (∀ vs' ∈ eligibleServers input, vs'.key = vs.key → vs' = vs) →
    (vs.keyWith "-redirect" ∈ b.httpRoutes.keys ↔
      isEligible vs = true ∧ vs.spec.tlsRedirect?.isSome = true ∧ vs.spec.tlsSecret?.isSome = true)

theorem mem_assembled {vs : VirtualServer} {a : Option AssembledRoutes} :
    (vs, a) ∈ assembled input settings ↔
      vs ∈ eligibleServers input ∧ a = some (routesFor input settings vs) := by
  have hzip : assembled input settings = (groups input).keys.flatMap fun ns =>
      (virtualServersIn input ns).map fun s => (s.2, some
        (Routing.serverRoutes (contextOf input settings).index settings s.2
          (foundSections (contextOf input settings) (virtualServersIn input ns) s.2))) := by
    change (groups input).entries.flatMap _ = _
    rw [entries_groups, List.flatMap_map]
    refine List.flatMap_congr fun ns _ => ?_
    change ((virtualServersIn input ns).map Prod.snd).zip (resultIn input settings ns).routes = _
    rw [resultIn_eq, List.zip_map']
  rw [hzip, List.mem_flatMap]
  constructor
  · rintro ⟨ns, _, h⟩
    obtain ⟨s, hs, he⟩ := List.mem_map.1 h
    obtain ⟨hvs, rfl, _⟩ := (mem_virtualServersIn input).1 hs
    cases he
    exact ⟨hvs, rfl⟩
  · rintro ⟨hvs, rfl⟩
    exact ⟨vs.namespaceOf, (mem_keys_groups input).2 (.inl ⟨vs, hvs, rfl⟩),
      List.mem_map.2 ⟨_, sourced_mem_virtualServersIn hvs, rfl⟩⟩

/-- Servers that share their namespace and their name find the same sections. -/
theorem sectionsOf_eq_of_key {vs vs' : VirtualServer} (h : vs'.key = vs.key) :
    sectionsOf input settings vs' = sectionsOf input settings vs := by
  obtain ⟨hns, hname⟩ := Resource.key_eq_iff.1 h
  rw [sectionsOf, sectionsOf, foundSections, foundSections, hns, hname]

section

variable {input settings} {vs : VirtualServer} (hvs : vs ∈ eligibleServers input) {r : HttpRoute}
include hvs

theorem exists_listeners_of_redirect
    (hr : (routesFor input settings vs).redirectRoute = some r) :
    ∃ l ∈ requestsIn input settings vs.namespaceOf, ∃ l' ∈ requestsIn input settings vs.namespaceOf,
      l.protocol = .http ∧ l'.protocol = .https ∧
      (sectionsOf input settings vs).primary? = some l'.name ∧ ∃ code,
        r = Routing.redirectRouteFrom l.name vs (sectionsOf input settings vs) settings code ∧
        (sectionsOf input settings vs).httpsPort = l'.port := by
  -- The sections may be those of another server of the same name.
  obtain ⟨t, ht, _, hsections⟩ :=
    exists_foundSections (contextOf input settings) (sourced_mem_virtualServersIn hvs)
  change sectionsOf input settings vs = _ at hsections
  rw [routesFor, Routing.redirectRoute_serverRoutes, hsections] at hr
  obtain ⟨redirect, _, hr⟩ := Option.bind_eq_some_iff.1 hr
  obtain ⟨_, hhttp, hr⟩ := Option.bind_eq_some_iff.1 hr
  obtain ⟨_, hhttps, rfl⟩ := Option.map_eq_some_iff.1 hr
  obtain ⟨l, hl, rfl⟩ := Option.map_eq_some_iff.1 hhttp
  obtain ⟨l', hl', rfl⟩ := Option.map_eq_some_iff.1 hhttps
  have hrequest : ∀ k ∈ siteListeners (contextOf input settings).ports settings t.2,
      k ∈ requestsIn input settings vs.namespaceOf := fun k hk =>
    List.mem_append_left _ (List.mem_flatMap.2 ⟨t, ht, hk⟩)
  obtain ⟨hprotocol, hport⟩ := Listeners.of_httpsListener? hl'
  refine ⟨l, hrequest l (List.mem_append_right _ (Option.mem_toList.2 hl)), l',
    hrequest l' (List.mem_append_left _ (Option.mem_toList.2 hl')),
    Listeners.protocol_of_httpListener? hl, hprotocol, ?_, redirect.code, ?_, ?_⟩
  · rw [hsections, Sections.primary?, hhttps]
    rfl
  · rw [hsections]
  · rw [hsections, hport]
    rfl

theorem exists_leadsTo (hr : (routesFor input settings vs).redirectRoute = some r)
    {vs' : VirtualServer} (hkey : vs'.key = vs.key) :
    ∃ g plain encrypted,
      LeadsTo (convert input settings).bundle (routesFor input settings vs') r g plain encrypted := by
  obtain ⟨l, hl, l', hl', hhttp, hhttps, hprimary, code, rfl, hport⟩ :=
    exists_listeners_of_redirect hvs hr
  obtain ⟨plain, hplain, hname, hprotocol, _⟩ := Listeners.exists_kept_of_request _ _ hl
  obtain ⟨encrypted, hencrypted, hname', hprotocol', hport'⟩ :=
    Listeners.exists_kept_of_request _ _ hl'
  have hg := (get?_gateways_eq_some_iff input settings).2
    ⟨vs.namespaceOf, List.ne_nil_of_mem hl, rfl, rfl⟩
  have hns : vs'.namespaceOf = vs.namespaceOf := (Resource.key_eq_iff.1 hkey).1
  have hparents : Routing.parentOf vs'.namespaceOf (sectionsOf input settings vs').primary? =
      Routing.parentOf vs.namespaceOf (some encrypted.name) := by
    rw [sectionsOf_eq_of_key input settings hkey, hprimary, hns, hname']
  refine ⟨sharedGateway input settings vs.namespaceOf, plain, encrypted, hg, hplain, hencrypted,
    hprotocol.trans hhttp, hprotocol'.trans hhttps, fun hsame => ?_, ⟨rfl, ?_⟩, fun m hm => ?_,
    fun m hm => ?_, fun q hq => ?_, ?_⟩
  · have hnames : l'.name = l.name := by rw [← hname, ← hname', hsame]
    obtain ⟨hprotocols, _⟩ := (Listeners.isNamed_requests _ _ _ _ hl).agree
      (Listeners.isNamed_requests _ _ _ _ hl') hnames
    rw [hhttp, hhttps] at hprotocols
    cases hprotocols
  · rw [hname]
    rfl
  · rw [Option.mem_def, routesFor, Routing.httpRoute_serverRoutes, hparents] at hm
    split at hm
    · cases hm
    · cases hm
      exact ⟨hns, rfl⟩
  · rw [Option.mem_def, routesFor, Routing.grpcRoute_serverRoutes, hparents] at hm
    split at hm
    · cases hm
    · cases hm
      exact ⟨hns, rfl⟩
  · cases List.mem_singleton.1 hq
    rfl
  · change [Routing.targetPort (Routing.toEncrypted _ _)] = _
    rw [Routing.targetPort_toEncrypted, hport, hport']

end

theorem exists_server_of_redirect {key : ObjectKey} {r : HttpRoute}
    (h : (convert input settings).bundle.httpRoutes.get? key = some r)
    (hname : ∃ owner, key.name = owner ++ "-redirect") :
    ∃ vs ∈ eligibleServers input, (routesFor input settings vs).redirectRoute = some r ∧
      key = vs.keyWith "-redirect" := by
  obtain ⟨owner, hname⟩ := hname
  obtain ⟨rfl, o, ho, hpick⟩ := Shelf.httpRoutes.exists_object_of_get? h
  rw [Shelf.pick?_eq_some_iff] at hpick
  subst hpick
  obtain ⟨ns, _, ho⟩ := (mem_allObjects input settings).1 ho
  rcases (mem_namespaceObjects input settings).1 ho with ⟨g, _, he⟩ | ⟨s, hs, ho⟩ | ⟨s, _, c, _, he⟩
  · cases he
  · obtain ⟨hvs, rfl, _⟩ := (mem_virtualServersIn input).1 hs
    change _ ∈ objectsOf (routesFor input settings s.2) at ho
    simp only [objectsOf, List.mem_append, List.mem_map, Option.mem_toList] at ho
    rcases ho with ((⟨r', hr', he⟩ | ⟨r', hr', he⟩) | ⟨r', _, he⟩) | ⟨p, _, he⟩ <;> cases he
    · refine ⟨s.2, hvs, hr', ?_⟩
      obtain ⟨l, _, l', _, _, _, _, code, rfl, _⟩ := exists_listeners_of_redirect hvs hr'
      rfl
    · rw [routesFor, Routing.httpRoute_serverRoutes] at hr'
      split at hr'
      · cases hr'
      · -- The route of the site itself does not have the name of a redirect.
        cases hr'
        exact absurd hname (GeneratedName.httpRoute_ne_redirectRoute _ _)
  · cases c <;> cases he

section

variable {input} {vs : VirtualServer}
  (hunique : ∀ vs' ∈ eligibleServers input, vs'.key = vs.key → vs' = vs)
include hunique

theorem routesFor_eq_ownRoutes (hvs : vs ∈ eligibleServers input) :
    routesFor input settings vs = ownRoutes (contextOf input settings) vs := by
  obtain ⟨t, ht, htname, hsections⟩ :=
    exists_foundSections (contextOf input settings) (sourced_mem_virtualServersIn hvs)
  obtain ⟨hteligible, htns, _⟩ := (mem_virtualServersIn input).1 ht
  rw [hunique t.2 hteligible (Resource.key_eq_iff.2 ⟨htns, htname⟩)] at hsections
  rw [routesFor, sectionsOf]
  exact congrArg (Routing.serverRoutes _ settings vs) hsections

theorem keys_redirectRoute_routesFor (hvs : vs ∈ eligibleServers input) :
    (routesFor input settings vs).redirectRoute.toList.map Resource.key =
      if Routing.hasRedirect vs then [vs.keyWith "-redirect"] else [] := by
  rw [routesFor_eq_ownRoutes settings hunique hvs]
  exact keys_redirectRoute_ownRoutes (contextOf input settings) vs

theorem mem_keys_redirect_iff (hvs : vs ∈ input.virtualServers) :
    vs.keyWith "-redirect" ∈ (convert input settings).bundle.httpRoutes.keys ↔
      isEligible vs = true ∧ vs.spec.tlsRedirect?.isSome = true ∧
        vs.spec.tlsSecret?.isSome = true := by
  constructor
  · intro h
    obtain ⟨r, hr⟩ := SortedMap.mem_keys_iff.1 h
    obtain ⟨vs', hvs', hroute, hkey⟩ := exists_server_of_redirect input settings hr ⟨_, rfl⟩
    have hsame := hunique vs' hvs'
      (Resource.key_eq_of_keyWith hkey.symm)
    subst hsame
    have hkeys := keys_redirectRoute_routesFor settings hunique hvs'
    rw [hroute] at hkeys
    split at hkeys
    case isTrue hredirect =>
      obtain ⟨hsecret, hasked⟩ := Bool.and_eq_true_iff.1 hredirect
      exact ⟨(List.mem_filter.1 hvs').2, hasked, hsecret⟩
    case isFalse => cases hkeys
  · rintro ⟨heligible, hasked, hsecret⟩
    have hvs' : vs ∈ eligibleServers input := List.mem_filter.2 ⟨hvs, heligible⟩
    have hredirect : Routing.hasRedirect vs = true := Bool.and_eq_true_iff.2 ⟨hsecret, hasked⟩
    have hkeys := keys_redirectRoute_routesFor settings hunique hvs'
    rw [if_pos hredirect] at hkeys
    obtain ⟨r, hr, hkey⟩ := List.mem_map.1 (hkeys ▸ List.mem_singleton_self _)
    have hobject := (mem_namespaceObjects input settings).2 (.inr (.inl
      ⟨sourced vs, sourced_mem_virtualServersIn hvs', List.mem_append_left _ (List.mem_append_left _
        (List.mem_append_left _ (List.mem_map_of_mem (f := GeneratedObject.httpRoute) hr)))⟩))
    have hall := (mem_allObjects input settings).2
      ⟨_, (mem_keys_groups input).2 (.inl ⟨vs, hvs', rfl⟩), hobject⟩
    exact Shelf.httpRoutes.mem_keys_convert.2 ⟨_, hall, r, rfl, hkey⟩

end

/-- Plain requests are sent on to the listener that serves the site, and for a convertible server that is
the only one of its name they are sent on iff it asks for it and has a certificate. -/
theorem redirectsSoundly_convert : RedirectsSoundly input settings (convert input settings).bundle where
  stored key r h hname := by
    obtain ⟨vs, hvs, hr, hkey⟩ := exists_server_of_redirect input settings h hname
    exact ⟨vs, routesFor input settings vs, (mem_assembled input settings).2 ⟨hvs, rfl⟩, hr, hkey⟩
  leads vs a r h hr vs' a' h' hkey := by
    obtain ⟨hvs, ha⟩ := (mem_assembled input settings).1 h
    obtain ⟨_, ha'⟩ := (mem_assembled input settings).1 h'
    cases ha
    cases ha'
    exact exists_leadsTo hvs hr hkey
  produced vs hvs hunique := mem_keys_redirect_iff settings hunique hvs

/-- A virtual server without a host is left out, with its redirect. -/
theorem not_mem_keys_redirect_hostless :
    let vs := simpleServer "shop" "cafe" "" (some "cert")
    let input : Snapshot := ⟨[vs], [], [], none⟩
    vs.spec.tlsRedirect?.isSome = true ∧ vs.spec.tlsSecret?.isSome = true ∧
      vs.keyWith "-redirect" ∉ (convert input .usual).bundle.httpRoutes.keys := by
  decide

end Conversion

end IngressGateway
