import SsmBridge.Construction.Endpoint
import Mathlib.Data.List.Basic

/-!
# The hosts that the endpoint policy accepts

The documentation of `EndpointPolicy::AwsOnly` lists the shapes of an SSM messages endpoint.  The
check is a test of the end of the host and a test of any label before it, so that it accepts more.

`endpoint_policy_documented_iff` says for which URLs the check keeps to the documentation: all but
those whose host is under an AWS suffix and has a service label among labels that are not arranged
as documented.  A load balancer whose name begins with `ssmmessages-` has such a host.
-/

namespace SsmBridge

/-! ## The documented shapes -/

/-- A label of a host name. -/
def DnsLabel (label : String) : Prop := label ≠ "" ∧ '.' ∉ label.toList

def serviceNames : List String := ["ssmmessages", "ssmmessages-fips"]

def awsSuffixes : List String := [".amazonaws.com", ".amazonaws.com.cn"]

/-- The host has one of the documented shapes. -/
def Documented (host : String) : Prop :=
  ∃ service ∈ serviceNames, ∃ region, DnsLabel region ∧ ∃ suffix ∈ awsSuffixes,
    host = service ++ "." ++ region ++ suffix ∨
      ∃ endpoint, DnsLabel endpoint ∧
        host = endpoint ++ "." ++ service ++ "." ++ region ++ "." ++ "vpce" ++ suffix

/-- The labels before the suffix are the service and a region, or an endpoint, the service, a region
and `vpce`. -/
def arranged : List String → Bool
  | [service, region] => serviceNames.contains service && region != ""
  | [endpoint, service, region, last] =>
      endpoint != "" && serviceNames.contains service && region != "" && last == "vpce"
  | _ => false

/-! ## Labels -/

lemma endsWith_iff {s suffix : String} : endsWith s suffix = true ↔ ∃ stem, s = stem ++ suffix := by
  rw [endsWith, List.isSuffixOf_iff_suffix]
  constructor
  · rintro ⟨stem, hstem⟩
    refine ⟨String.ofList stem, String.toList_inj.mp ?_⟩
    rw [String.toList_append, String.toList_ofList, hstem]
  · rintro ⟨stem, rfl⟩
    exact ⟨stem.toList, (String.toList_append).symm⟩

/-- Labels have no dots. -/
lemma not_mem_of_mem_splitOn {a : Char} {xs l : List Char} (h : l ∈ xs.splitOn a) : a ∉ l := by
  induction xs generalizing l with
  | nil =>
    rw [List.splitOn_nil, List.mem_singleton] at h
    simp [h]
  | cons x xs ih =>
    rw [List.splitOn_cons_eq_if_modifyHead] at h
    split at h
    · rcases List.mem_cons.mp h with rfl | h
      · simp
      · exact ih h
    · next hx =>
      cases hsplit : xs.splitOn a with
      | nil => exact absurd hsplit (List.splitOn_ne_nil a xs)
      | cons head tail =>
        rw [hsplit, List.modifyHead_cons] at h
        rcases List.mem_cons.mp h with rfl | h
        · have hhead := ih (hsplit ▸ List.mem_cons_self)
          have hne : a ≠ x := fun hax => hx (by simp [hax])
          simp [hhead, hne]
        · exact ih (hsplit ▸ List.mem_cons_of_mem _ h)

lemma hostLabels_append (s t : String) :
    hostLabels (s ++ "." ++ t) = hostLabels s ++ hostLabels t := by
  have hdot : ".".toList = ['.'] := rfl
  simp only [hostLabels, String.toList_append, hdot, List.append_assoc, List.singleton_append,
    List.splitOn_append_cons_self, List.map_append]

lemma hostLabels_of_label {label : String} (h : '.' ∉ label.toList) :
    hostLabels label = [label] := by
  rw [hostLabels, List.splitOn_eq_singleton h, List.map_singleton, String.ofList_toList]

/-- A text is its labels with dots between them. -/
lemma toList_of_hostLabels {s : String} {labels : List String} (h : hostLabels s = labels) :
    s.toList = ['.'].intercalate (labels.map String.toList) := by
  rw [← h, hostLabels, List.map_map]
  have hid : String.toList ∘ String.ofList = id := by
    funext l
    exact String.toList_ofList
  rw [hid, List.map_id, List.intercalate_splitOn]

lemma not_mem_of_mem_hostLabels {s label : String} (h : label ∈ hostLabels s) :
    '.' ∉ label.toList := by
  obtain ⟨l, hl, rfl⟩ := List.mem_map.mp h
  rw [String.toList_ofList]
  exact not_mem_of_mem_splitOn hl

/-! ## Hosts under an AWS suffix -/

/-- What stands before the suffix decides whether there is a service label. -/
lemma any_isServiceLabel_append {stem suffix : String} (hsuffix : suffix ∈ awsSuffixes) :
    (hostLabels (stem ++ suffix)).any isServiceLabel = (hostLabels stem).any isServiceLabel := by
  have hsplit : ∃ tail, suffix = "." ++ tail ∧ (hostLabels tail).any isServiceLabel = false := by
    rcases List.mem_cons.mp hsuffix with rfl | hsuffix
    · exact ⟨"amazonaws.com", by decide, by decide⟩
    · rw [List.mem_singleton.mp hsuffix]
      exact ⟨"amazonaws.com.cn", by decide, by decide⟩
  obtain ⟨tail, rfl, htail⟩ := hsplit
  rw [← String.append_assoc, hostLabels_append, List.any_append, htail, Bool.or_false]

/-- The two suffixes end in different letters. -/
lemma append_awsSuffix_inj {s t suffix suffix' : String} (hs : suffix ∈ awsSuffixes)
    (ht : suffix' ∈ awsSuffixes) (h : s ++ suffix = t ++ suffix') : s = t := by
  have hlist : s.toList ++ suffix.toList = t.toList ++ suffix'.toList := by
    rw [← String.toList_append, ← String.toList_append, h]
  have hne : ∀ x ∈ awsSuffixes, x.toList ≠ [] := by decide
  have hlast : suffix.toList.getLast? = suffix'.toList.getLast? := by
    have hends := congrArg List.getLast? hlist
    rwa [List.getLast?_append_of_ne_nil _ (hne _ hs),
      List.getLast?_append_of_ne_nil _ (hne _ ht)] at hends
  have hdiffer : ∀ x ∈ awsSuffixes, ∀ y ∈ awsSuffixes,
      x.toList.getLast? = y.toList.getLast? → x = y := by decide
  rw [hdiffer _ hs _ ht hlast] at hlist
  exact String.toList_inj.mp (List.append_cancel_right hlist)

lemma label_of_mem_serviceNames {service : String} (h : service ∈ serviceNames) :
    '.' ∉ service.toList := by
  have hall : ∀ s ∈ serviceNames, '.' ∉ s.toList := by decide
  exact hall service h

/-- The labels of a documented host are arranged as documented. -/
lemma arranged_of_documented {stem suffix : String} (hsuffix : suffix ∈ awsSuffixes)
    (h : Documented (stem ++ suffix)) : arranged (hostLabels stem) = true := by
  obtain ⟨service, hservice, region, hregion, suffix', hsuffix', hhost⟩ := h
  have hdot := label_of_mem_serviceNames hservice
  rcases hhost with hhost | ⟨endpoint, hendpoint, hhost⟩
  · rw [append_awsSuffix_inj hsuffix hsuffix' hhost, hostLabels_append, hostLabels_of_label hdot,
      hostLabels_of_label hregion.2]
    simp [arranged, hservice, hregion.1]
  · have hvpce : hostLabels "vpce" = ["vpce"] := by decide
    rw [append_awsSuffix_inj hsuffix hsuffix' hhost, hostLabels_append, hostLabels_append,
      hostLabels_append, hostLabels_of_label hdot, hostLabels_of_label hregion.2,
      hostLabels_of_label hendpoint.2, hvpce]
    simp [arranged, hservice, hregion.1, hendpoint.1]

/-- A host whose labels are arranged as documented is documented. -/
lemma documented_of_arranged {stem suffix : String} (hsuffix : suffix ∈ awsSuffixes)
    (h : arranged (hostLabels stem) = true) : Documented (stem ++ suffix) := by
  have hlabel : ∀ {label : String}, label ∈ hostLabels stem → label ≠ "" → DnsLabel label :=
    fun hmem hne => ⟨hne, not_mem_of_mem_hostLabels hmem⟩
  have hdots : ".".toList = ['.'] := rfl
  generalize hlabels : hostLabels stem = labels at h hlabel
  have hstem := toList_of_hostLabels hlabels
  unfold arranged at h
  split at h
  · next service region =>
    simp only [Bool.and_eq_true, List.contains_iff_mem, bne_iff_ne] at h
    refine ⟨service, h.1, region, hlabel (by simp) h.2, suffix, hsuffix, Or.inl ?_⟩
    congr 1
    apply String.toList_inj.mp
    simp [hstem, hdots]
  · next endpoint service region last =>
    simp only [Bool.and_eq_true, List.contains_iff_mem, bne_iff_ne, beq_iff_eq] at h
    obtain ⟨⟨⟨hendpoint, hservice⟩, hregion⟩, rfl⟩ := h
    refine ⟨service, hservice, region, hlabel (by simp) hregion, suffix, hsuffix, Or.inr ?_⟩
    refine ⟨endpoint, hlabel (by simp) hendpoint, ?_⟩
    congr 1
    apply String.toList_inj.mp
    simp [hstem, hdots]
  · exact absurd h Bool.false_ne_true

/-! ## What the check accepts -/

/-- The default policy accepts a URL over TLS whose host is under an AWS suffix and has a service
label before it. -/
lemma validate_awsOnly_iff {crate : UrlCrate} {raw : String} :
    EndpointPolicy.validate crate .awsOnly raw = .ok () ↔
      ∃ url stem suffix, crate.parse raw = .ok url ∧ url.scheme = "wss" ∧ suffix ∈ awsSuffixes ∧
        url.hostStr = some (stem ++ suffix) ∧ (hostLabels stem).any isServiceLabel = true := by
  constructor
  · intro h
    unfold EndpointPolicy.validate at h
    split at h
    · cases h
    · next url hparse =>
      rw [if_neg (by decide)] at h
      split at h
      · cases h
      · next hscheme =>
        split at h
        · cases h
        · next host hhost =>
          dsimp only at h
          split at h
          · next haccept =>
            rw [Bool.and_eq_true, Bool.or_eq_true, endsWith_iff, endsWith_iff] at haccept
            obtain ⟨⟨stem, hstem⟩ | ⟨stem, hstem⟩, hservice⟩ := haccept
            · have hmem : ".amazonaws.com" ∈ awsSuffixes := by decide
              refine ⟨url, stem, _, hparse, not_not.mp hscheme, hmem, hstem ▸ hhost, ?_⟩
              rwa [hstem, any_isServiceLabel_append hmem] at hservice
            · have hmem : ".amazonaws.com.cn" ∈ awsSuffixes := by decide
              refine ⟨url, stem, _, hparse, not_not.mp hscheme, hmem, hstem ▸ hhost, ?_⟩
              rwa [hstem, any_isServiceLabel_append hmem] at hservice
          · cases h
  · rintro ⟨url, stem, suffix, hparse, hscheme, hsuffix, hhost, hservice⟩
    have hends : (endsWith (stem ++ suffix) ".amazonaws.com" ||
        endsWith (stem ++ suffix) ".amazonaws.com.cn") = true := by
      rw [Bool.or_eq_true, endsWith_iff, endsWith_iff]
      rcases List.mem_cons.mp hsuffix with rfl | hsuffix
      · exact Or.inl ⟨stem, rfl⟩
      · exact Or.inr ⟨stem, by rw [List.mem_singleton.mp hsuffix]⟩
    have hany : (hostLabels (stem ++ suffix)).any isServiceLabel = true := by
      rw [any_isServiceLabel_append hsuffix, hservice]
    simp [EndpointPolicy.validate, hparse, hscheme, hhost, hends, hany]

/-- The check keeps to the documented shapes at exactly the URLs that are not of the form: over TLS,
with a host under an AWS suffix that has a service label, the labels before the suffix being neither
a service name and a region nor an endpoint, a service name, a region and `vpce`. -/
theorem endpoint_policy_documented_iff (crate : UrlCrate) (raw : String) :
    (EndpointPolicy.validate crate .awsOnly raw = .ok () →
      ∃ url host, crate.parse raw = .ok url ∧ url.scheme = "wss" ∧ url.hostStr = some host ∧
        Documented host) ↔
      ¬ ∃ url stem suffix, crate.parse raw = .ok url ∧ url.scheme = "wss" ∧
        suffix ∈ awsSuffixes ∧ url.hostStr = some (stem ++ suffix) ∧
        (hostLabels stem).any isServiceLabel = true ∧ arranged (hostLabels stem) = false := by
  constructor
  · rintro hdoc ⟨url, stem, suffix, hparse, hscheme, hsuffix, hhost, hservice, hstray⟩
    have hok : EndpointPolicy.validate crate .awsOnly raw = .ok () :=
      validate_awsOnly_iff.mpr ⟨url, stem, suffix, hparse, hscheme, hsuffix, hhost, hservice⟩
    obtain ⟨url', host, hparse', -, hhost', hshape⟩ := hdoc hok
    obtain rfl : url' = url := Except.ok.inj (hparse'.symm.trans hparse)
    obtain rfl : host = stem ++ suffix := Option.some.inj (hhost'.symm.trans hhost)
    have harranged := arranged_of_documented hsuffix hshape
    rw [hstray] at harranged
    exact Bool.false_ne_true harranged
  · intro hnone hok
    obtain ⟨url, stem, suffix, hparse, hscheme, hsuffix, hhost, hservice⟩ :=
      validate_awsOnly_iff.mp hok
    refine ⟨url, stem ++ suffix, hparse, hscheme, hhost, documented_of_arranged hsuffix ?_⟩
    by_contra hstray
    exact hnone ⟨url, stem, suffix, hparse, hscheme, hsuffix, hhost, hservice,
      Bool.eq_false_iff.mpr hstray⟩

/-- A load balancer with a name of the customer's. -/
def strayHost : String := "ssmmessages-evil-1234567890.us-east-1.elb.amazonaws.com"

/-- A crate that parses one URL. -/
def strayCrate : UrlCrate where
  parse raw :=
    if raw = "wss://" ++ strayHost ++ "/" then
      .ok { scheme := "wss", hostStr := some strayHost, rest := raw, query := none }
    else .error "relative URL without a base"
  write url := url.rest

/-- The name of a load balancer passes as an SSM messages endpoint. -/
theorem stray_load_balancer_accepted :
    ¬ ∀ (crate : UrlCrate) (raw : String), EndpointPolicy.validate crate .awsOnly raw = .ok () →
      ∃ url host, crate.parse raw = .ok url ∧ url.scheme = "wss" ∧ url.hostStr = some host ∧
        Documented host := by
  intro hall
  have hok :
      EndpointPolicy.validate strayCrate .awsOnly ("wss://" ++ strayHost ++ "/") = .ok () := by
    decide
  obtain ⟨url, host, hparse, -, hhost, hshape⟩ := hall _ _ hok
  have hurl : strayCrate.parse ("wss://" ++ strayHost ++ "/") =
      .ok { scheme := "wss", hostStr := some strayHost, rest := "wss://" ++ strayHost ++ "/",
            query := none } := by
    simp [strayCrate]
  rw [hurl] at hparse
  cases hparse
  obtain rfl : strayHost = host := Option.some.inj hhost
  have hsplit : strayHost =
      "ssmmessages-evil-1234567890.us-east-1.elb" ++ ".amazonaws.com" := by decide
  rw [hsplit] at hshape
  have harranged := arranged_of_documented (by decide) hshape
  revert harranged
  decide

end SsmBridge
