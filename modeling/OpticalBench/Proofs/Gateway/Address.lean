import Mathlib.Data.List.DropRight
import OpticalBench.Gateway.Basic
import OpticalBench.Proofs.Config.Precedence

/-!
# Addresses that a configuration accepts and a client refuses

Both a configuration and a client ask for an address that begins with a scheme and two slashes. The
configuration asks this of the address as it is written, the client of what is left of it without the
slashes at its end. So the two agree except on an address of which nothing but the scheme is left.

- `Client.IsBare`: an address that is a scheme and slashes.
- `Client.toList_trimEndpoint_of_isBare`, `Client.hasScheme_trimEndpoint`: what is left of an address.
- `Gateway.ofFramework_eq_ok`: the local services always have a gateway.
- `Gateway.ofSettings_unless_isBare`: which gateways a valid configuration yields.
- `Gateway.not_forall_exists_gateway`: not all of them.
-/

namespace OpticalBench

namespace Client

variable {scheme url : String} {timeout : Duration} {token : Option String}

/-! ## Schemes -/

/-- The schemes that services use. -/
def schemes : List String := ["http:", "https:"]

/-- A scheme with nothing but slashes behind it. -/
def IsBare (scheme url : String) : Prop :=
  ∃ n, url.toList = scheme.toList ++ List.replicate n '/'

/-- An address is a scheme, two slashes, and what else there is. -/
theorem isAddress_iff : Config.IsAddress url ↔
    ∃ scheme ∈ schemes, ∃ rest, url.toList = scheme.toList ++ (['/', '/'] ++ rest) := by
  have hscheme : ∀ scheme : String, scheme.toList ++ ['/', '/'] <+: url.toList ↔
      ∃ rest, url.toList = scheme.toList ++ (['/', '/'] ++ rest) := by
    intro scheme
    simp only [List.prefix_iff_exists_append_eq, List.append_assoc, eq_comm]
  simp only [schemes, List.mem_cons, List.not_mem_nil, or_false, exists_eq_or_imp, exists_eq_left,
    ← hscheme]
  exact Iff.rfl

theorem hasScheme_iff : hasScheme url = true ↔ Config.IsAddress url := by
  rw [hasScheme, Bool.or_eq_true, List.isPrefixOf_iff_prefix, List.isPrefixOf_iff_prefix]
  exact Iff.rfl

/-! ## Slashes at the end -/

/-- Dropping from the end of a concatenation reaches the first part only if nothing is left of the
second. -/
theorem rdropWhile_append {α : Type} (p : α → Bool) (xs ys : List α) :
    (xs ++ ys).rdropWhile p =
      if ys.rdropWhile p = [] then xs.rdropWhile p else xs ++ ys.rdropWhile p := by
  rw [List.rdropWhile, List.reverse_append, List.dropWhile_append]
  by_cases h : ys.rdropWhile p = []
  · have hempty : (ys.reverse.dropWhile p).isEmpty = true := by simpa [List.rdropWhile] using h
    rw [if_pos hempty, if_pos h, List.rdropWhile]
  · have hnot : ¬(ys.reverse.dropWhile p).isEmpty = true := by simpa [List.rdropWhile] using h
    rw [if_neg hnot, if_neg h, List.reverse_append, List.reverse_reverse, List.rdropWhile]

theorem toList_trimEndpoint (url : String) :
    (trimEndpoint url).toList = url.toList.rdropWhile (· == '/') := by
  rw [trimEndpoint, String.toList_ofList, List.rdropWhile]

/-- A scheme ends in a colon and has no slashes at its end. -/
theorem rdropWhile_scheme (h : scheme ∈ schemes) :
    scheme.toList.rdropWhile (· == '/') = scheme.toList := by
  have hschemes : ∀ scheme ∈ schemes,
      scheme.toList.rdropWhile (· == '/') = scheme.toList := by decide
  exact hschemes scheme h

/-- Of a scheme and slashes, the scheme is left. -/
theorem trimEndpoint_of_isBare (h : scheme ∈ schemes) (hbare : IsBare scheme url) :
    trimEndpoint url = scheme := by
  obtain ⟨n, hurl⟩ := hbare
  have hslashes : (List.replicate n '/').rdropWhile (· == '/') = [] :=
    List.rdropWhile_eq_nil_iff.2 fun c hc => beq_iff_eq.2 (List.eq_of_mem_replicate hc)
  rw [← String.toList_inj, toList_trimEndpoint, hurl, rdropWhile_append, if_pos hslashes,
    rdropWhile_scheme h]

/-- Of any other address, the scheme and the two slashes are left, and more. -/
theorem isAddress_trimEndpoint (haddress : Config.IsAddress url)
    (hbare : ∀ scheme ∈ schemes, ¬IsBare scheme url) : Config.IsAddress (trimEndpoint url) := by
  obtain ⟨scheme, hscheme, rest, hurl⟩ := isAddress_iff.1 haddress
  refine isAddress_iff.2 ⟨scheme, hscheme, rest.rdropWhile (· == '/'), ?_⟩
  have hrest : rest.rdropWhile (· == '/') ≠ [] := by
    -- nothing but slashes would make the address a bare scheme
    intro hnil
    refine hbare scheme hscheme ⟨rest.length + 2, ?_⟩
    have hslashes : ['/', '/'] ++ rest = List.replicate (rest.length + 2) '/' := by
      rw [List.eq_replicate_iff]
      refine ⟨rfl, fun c hc => ?_⟩
      rcases List.mem_append.1 hc with hc | hc
      · simpa using hc
      · exact beq_iff_eq.1 (List.rdropWhile_eq_nil_iff.1 hnil c hc)
    rw [hurl, hslashes]
  have hmore : (['/', '/'] ++ rest).rdropWhile (· == '/') =
      ['/', '/'] ++ rest.rdropWhile (· == '/') := by
    rw [rdropWhile_append, if_neg hrest]
  rw [toList_trimEndpoint, hurl, rdropWhile_append, hmore, if_neg (by simp)]

/-! ## Clients -/

theorem new_of_isBare (h : scheme ∈ schemes) (hbare : IsBare scheme url) :
    new url timeout token = .error (.invalidEndpoint scheme) := by
  have hschemes : ∀ scheme ∈ schemes, hasScheme scheme = false := by decide
  have hnone := hschemes scheme h
  rw [new, trimEndpoint_of_isBare h hbare]
  exact if_neg (by rw [hnone]; exact Bool.false_ne_true)

theorem new_of_isAddress (haddress : Config.IsAddress url)
    (hbare : ∀ scheme ∈ schemes, ¬IsBare scheme url) :
    new url timeout token = .ok ⟨trimEndpoint url, timeout, token⟩ :=
  if_pos (hasScheme_iff.2 (isAddress_trimEndpoint haddress hbare))

end Client

namespace Gateway

open Client (schemes IsBare trimEndpoint)

variable {s : GatewaySettings} {scheme : String}

theorem ofSettings_of_isBare (h : scheme ∈ schemes) (hbare : IsBare scheme s.endpoint) :
    ofSettings s = .error (.invalidEndpoint scheme) := by
  rw [ofSettings, Client.new_of_isBare h hbare, Except.map]

theorem ofSettings_of_isAddress (haddress : Config.IsAddress s.endpoint)
    (hbare : ∀ scheme ∈ schemes, ¬IsBare scheme s.endpoint) :
    ofSettings s = .ok ⟨s, trimEndpoint s.endpoint, s.timeout, s.token⟩ := by
  rw [ofSettings, Client.new_of_isAddress haddress hbare, Except.map]

/-- There always is a gateway to the local service of a framework. The configuration without any file
yields the same one. -/
theorem ofFramework_eq_ok (f : Framework) :
    ofFramework f = .ok ⟨.default f, f.defaultEndpoint, .defaultTimeout, none⟩ ∧
      ofSettings (Config.default.settings f) = ofFramework f := by
  have htrim : trimEndpoint f.defaultEndpoint = f.defaultEndpoint := by cases f <;> decide +kernel
  have hscheme : Client.hasScheme f.defaultEndpoint = true := by cases f <;> decide
  have hclient : Client.new f.defaultEndpoint .defaultTimeout none =
      .ok ⟨f.defaultEndpoint, .defaultTimeout, none⟩ := by
    rw [Client.new, htrim, if_pos hscheme]
  have hsettings : Config.default.settings f = .default f := by cases f <;> rfl
  constructor
  · rw [ofFramework, ofSettings, GatewaySettings.default, hclient, Except.map]
  · rw [hsettings, ofFramework]

/-- **A valid configuration yields the gateway of each framework whose address is more than a scheme
and slashes.** An address that is no more than that passes validation, but there is no client for it. -/
theorem ofSettings_unless_isBare (c : Config) (valid : c.validate = .ok c) (f : Framework) :
    ((∃ g, ofSettings (c.settings f) = .ok g) ↔
      ∀ scheme ∈ schemes, ¬IsBare scheme (c.endpoint f).url) ∧
    (∀ g, ofSettings (c.settings f) = .ok g → g.settings = c.settings f ∧
      g.client = ⟨trimEndpoint (c.endpoint f).url, c.timeout, (c.endpoint f).token⟩) ∧
    ∀ scheme ∈ schemes, IsBare scheme (c.endpoint f).url →
      ofSettings (c.settings f) = .error (.invalidEndpoint scheme) := by
  have haddress : Config.IsAddress (c.endpoint f).url :=
    ((Config.validate_eq_ok_iff.1 valid).1.endpoint f).url
  have hrefused : ∀ scheme ∈ schemes, IsBare scheme (c.endpoint f).url →
      ofSettings (c.settings f) = .error (.invalidEndpoint scheme) :=
    fun _ hscheme hbare => ofSettings_of_isBare hscheme hbare
  have hmade : (∀ scheme ∈ schemes, ¬IsBare scheme (c.endpoint f).url) →
      ofSettings (c.settings f) = .ok ⟨c.settings f,
        trimEndpoint (c.endpoint f).url, c.timeout, (c.endpoint f).token⟩ :=
    fun hbare => ofSettings_of_isAddress haddress hbare
  have honly : ∀ g, ofSettings (c.settings f) = .ok g →
      ∀ scheme ∈ schemes, ¬IsBare scheme (c.endpoint f).url := by
    intro g hg scheme hscheme hbare
    exact nomatch hg.symm.trans (hrefused scheme hscheme hbare)
  refine ⟨⟨fun ⟨g, hg⟩ => honly g hg, fun hbare => ⟨_, hmade hbare⟩⟩, fun g hg => ?_, hrefused⟩
  obtain rfl := Except.ok.inj (hg.symm.trans (hmade (honly g hg)))
  exact ⟨rfl, rfl⟩

/-- A configuration in which the address of one service is given. -/
def addressed (url : String) : Config := { Config.default with perceval := ⟨url, none⟩ }

theorem validate_addressed (url : String) (h : (addressed url).fault? = none) :
    (addressed url).validate = .ok (addressed url) :=
  Config.validate_eq_ok_iff.2 ⟨Config.fault?_eq_none_iff.1 h, rfl⟩

/-- Slashes behind a host are dropped; slashes behind a scheme leave no address. -/
theorem ofSettings_unless_isBare_slashes :
    (addressed "http://b//").validate = .ok (addressed "http://b//") ∧
      (∃ g, ofSettings ((addressed "http://b//").settings .perceval) = .ok g ∧
        g.client.endpoint = "http://b") ∧
      (addressed "https:///").validate = .ok (addressed "https:///") ∧
      ofSettings ((addressed "https:///").settings .perceval) =
        .error (.invalidEndpoint "https:") := by
  have hvalid := validate_addressed "http://b//" (by decide +kernel)
  have hbare := validate_addressed "https:///" (by decide +kernel)
  obtain ⟨hexists, hclient, -⟩ := ofSettings_unless_isBare _ hvalid .perceval
  obtain ⟨-, -, hrefused⟩ := ofSettings_unless_isBare _ hbare .perceval
  have hmore : ∀ scheme ∈ schemes, ¬IsBare scheme "http://b//" := by
    intro scheme hscheme h
    have hleft : ∀ scheme ∈ schemes, trimEndpoint "http://b//" ≠ scheme := by decide +kernel
    exact hleft scheme hscheme (Client.trimEndpoint_of_isBare hscheme h)
  obtain ⟨g, hg⟩ := hexists.2 hmore
  refine ⟨hvalid, ⟨g, hg, ?_⟩, hbare, ?_⟩
  · rw [(hclient g hg).2]
    decide +kernel
  · exact hrefused "https:" (by decide) ⟨3, rfl⟩

/-- A scheme and two slashes are an address for a configuration, but not for a client. -/
theorem not_forall_exists_gateway :
    ¬∀ c : Config, c.validate = .ok c → ∀ f, ∃ g, ofSettings (c.settings f) = .ok g := by
  intro h
  have hvalid := validate_addressed "http://" (by decide +kernel)
  obtain ⟨g, hg⟩ := h _ hvalid .perceval
  have hrefused : ofSettings ((addressed "http://").settings .perceval) =
      .error (.invalidEndpoint "http:") := ofSettings_of_isBare (by decide) ⟨2, rfl⟩
  exact nomatch hg.symm.trans hrefused

end Gateway

end OpticalBench
