import SsmBridge.Construction.Endpoint
import Mathlib.Data.List.Forall2

/-!
# What a logged URL says

`sanitize_url` strips the session token from a URL before it is logged.  A URL can also carry a
presigned signature, which authenticates the request as the token does, and whose parameters
`is_presigned` knows.  The sanitiser does not strip these.

`sanitized_urls_agree_iff` takes two URLs that differ at most in the values of secret parameters.
They are logged as the same text if and only if their signature parameters have the same values:
the token is hidden, a signature is not.  All other pairs are always kept (`kept_of_sanitizeUrl`).
-/

namespace SsmBridge

/-! ## Secret parameters -/

/-- The parameter is the session token or belongs to a presigned signature. -/
def isSecretParam (key : String) : Bool :=
  eqIgnoreAsciiCase key "tokenValue" || isPresignedParam key

/-- The pairs of the query that are not secret. -/
def Url.publicPairs (url : Url) : List (String × String) :=
  url.queryPairs.filter (fun pair => !isSecretParam pair.1)

/-- The URLs are equal except for the values of secret parameters. -/
structure EqualButSecrets (url₁ url₂ : Url) : Prop where
  scheme : url₁.scheme = url₂.scheme
  hostStr : url₁.hostStr = url₂.hostStr
  rest : url₁.rest = url₂.rest
  pairs : List.Forall₂ (fun p q => p.1 = q.1 ∧ (isSecretParam p.1 = false → p.2 = q.2))
    url₁.queryPairs url₂.queryPairs

/-- Parameters of a signature have the same values in both URLs. -/
def SameSignature (url₁ url₂ : Url) : Prop :=
  List.Forall₂ (fun p q => isPresignedParam p.1 = true → p.2 = q.2) url₁.queryPairs url₂.queryPairs

/-- The text parses to a URL with the same pairs that are not secret. -/
def KeepsPublic (crate : UrlCrate) (url : Url) (text : String) : Prop :=
  ∃ logged, crate.parse text = .ok logged ∧ logged.publicPairs = url.publicPairs

/-- No parameter of a signature is called as the token. -/
lemma not_token_of_isPresignedParam {key : String} (h : isPresignedParam key = true) :
    eqIgnoreAsciiCase key "tokenValue" = false := by
  have hnone : ∀ name ∈ presignedParams, eqIgnoreAsciiCase name "tokenValue" = false := by decide
  obtain ⟨name, hmem, hname⟩ := List.any_eq_true.mp h
  rw [eqIgnoreAsciiCase, beq_iff_eq] at hname
  rw [eqIgnoreAsciiCase, hname]
  exact hnone name hmem

/-! ## The stripped URL -/

@[simp] lemma stripToken_scheme (url : Url) : (stripToken url).scheme = url.scheme := by
  unfold stripToken
  dsimp only
  split <;> rfl

@[simp] lemma stripToken_hostStr (url : Url) : (stripToken url).hostStr = url.hostStr := by
  unfold stripToken
  dsimp only
  split <;> rfl

@[simp] lemma stripToken_rest (url : Url) : (stripToken url).rest = url.rest := by
  unfold stripToken
  dsimp only
  split <;> rfl

@[simp] lemma stripToken_queryPairs (url : Url) : (stripToken url).queryPairs =
    url.queryPairs.filter (fun pair => !eqIgnoreAsciiCase pair.1 "tokenValue") := by
  unfold stripToken
  dsimp only
  split
  · next hempty => exact (List.isEmpty_iff.mp hempty).symm
  · simp [Url.extendPairs, Url.queryPairs]

/-- Two stripped URLs with the same pairs and otherwise equal are equal. -/
lemma stripToken_congr {url₁ url₂ : Url} (hscheme : url₁.scheme = url₂.scheme)
    (hhost : url₁.hostStr = url₂.hostStr) (hrest : url₁.rest = url₂.rest)
    (hpairs : (stripToken url₁).queryPairs = (stripToken url₂).queryPairs) :
    stripToken url₁ = stripToken url₂ := by
  rw [stripToken_queryPairs, stripToken_queryPairs] at hpairs
  simp only [stripToken, hpairs, Url.extendPairs, hscheme, hhost, hrest]

/-- Pairs that are not secret are not stripped. -/
lemma publicPairs_stripToken (url : Url) : (stripToken url).publicPairs = url.publicPairs := by
  rw [Url.publicPairs, Url.publicPairs, stripToken_queryPairs, List.filter_filter]
  apply List.filter_congr
  intro pair _
  cases htoken : eqIgnoreAsciiCase pair.1 "tokenValue"
  · simp
  · simp [isSecretParam, htoken]

/-- Stripping the token leaves equal pairs if and only if the signatures were equal. -/
lemma filter_eq_iff_of_forall₂ {l₁ l₂ : List (String × String)}
    (h : List.Forall₂ (fun p q => p.1 = q.1 ∧ (isSecretParam p.1 = false → p.2 = q.2)) l₁ l₂) :
    l₁.filter (fun pair => !eqIgnoreAsciiCase pair.1 "tokenValue") =
        l₂.filter (fun pair => !eqIgnoreAsciiCase pair.1 "tokenValue") ↔
      List.Forall₂ (fun p q => isPresignedParam p.1 = true → p.2 = q.2) l₁ l₂ := by
  induction h with
  | nil => simp
  | @cons p q l₁ l₂ hpq _ ih =>
    obtain ⟨key, value₁⟩ := p
    obtain ⟨key', value₂⟩ := q
    obtain ⟨hkey, hvalue⟩ := hpq
    obtain rfl : key = key' := hkey
    rw [List.forall₂_cons, ← ih]
    cases htoken : eqIgnoreAsciiCase key "tokenValue"
    · -- The pair is kept, and its value is secret only as a part of a signature.
      have hsecret : isSecretParam key = isPresignedParam key := by simp [isSecretParam, htoken]
      rw [hsecret] at hvalue
      cases hsigned : isPresignedParam key
      · have hvalues : value₁ = value₂ := hvalue hsigned
        simp [htoken, hvalues]
      · simp [htoken]
    · have hsigned : isPresignedParam key = false := by
        by_contra hsigned
        have hplain := not_token_of_isPresignedParam (Bool.of_not_eq_false hsigned)
        exact Bool.false_ne_true (hplain.symm.trans htoken)
      simp [htoken, hsigned]

/-! ## Logged texts -/

/-- Every pair that is not secret is in the logged text, in order and with its value. -/
lemma kept_of_sanitizeUrl {crate : UrlCrate} {raw : String} {url : Url}
    (hparse : crate.parse raw = .ok url)
    (hround : crate.parse (crate.write (stripToken url)) = .ok (stripToken url)) :
    KeepsPublic crate url (sanitizeUrl crate raw) := by
  refine ⟨stripToken url, ?_, publicPairs_stripToken url⟩
  simp only [sanitizeUrl, hparse]
  exact hround

section TwoUrls

variable {crate : UrlCrate} {raw₁ raw₂ : String} {url₁ url₂ : Url}

/-- The logged texts are equal if and only if the stripped URLs are. -/
lemma sanitizeUrl_eq_iff (hparse₁ : crate.parse raw₁ = .ok url₁)
    (hparse₂ : crate.parse raw₂ = .ok url₂)
    (hround₁ : crate.parse (crate.write (stripToken url₁)) = .ok (stripToken url₁))
    (hround₂ : crate.parse (crate.write (stripToken url₂)) = .ok (stripToken url₂)) :
    sanitizeUrl crate raw₁ = sanitizeUrl crate raw₂ ↔ stripToken url₁ = stripToken url₂ := by
  simp only [sanitizeUrl, hparse₁, hparse₂]
  constructor
  · intro h
    rw [h, hround₂] at hround₁
    exact (Except.ok.inj hround₁).symm
  · intro h
    rw [h]

/-- The stripped URLs are equal if and only if the signatures are the same. -/
lemma EqualButSecrets.stripToken_eq_iff (h : EqualButSecrets url₁ url₂) :
    stripToken url₁ = stripToken url₂ ↔ SameSignature url₁ url₂ := by
  rw [SameSignature, ← filter_eq_iff_of_forall₂ h.pairs]
  constructor
  · intro hstripped
    have hpairs := congrArg Url.queryPairs hstripped
    rwa [stripToken_queryPairs, stripToken_queryPairs] at hpairs
  · intro hpairs
    apply stripToken_congr h.scheme h.hostStr h.rest
    rw [stripToken_queryPairs, stripToken_queryPairs, hpairs]

end TwoUrls

/-- Two URLs that differ at most in the values of secret parameters are logged as the same text,
with all the pairs that are not secret, if and only if their signatures are the same. -/
theorem sanitized_urls_agree_iff (crate : UrlCrate) (raw₁ raw₂ : String) (url₁ url₂ : Url)
    (hparse₁ : crate.parse raw₁ = .ok url₁) (hparse₂ : crate.parse raw₂ = .ok url₂)
    (hround₁ : crate.parse (crate.write (stripToken url₁)) = .ok (stripToken url₁))
    (hround₂ : crate.parse (crate.write (stripToken url₂)) = .ok (stripToken url₂))
    (hequal : EqualButSecrets url₁ url₂) :
    (sanitizeUrl crate raw₁ = sanitizeUrl crate raw₂ ∧
        KeepsPublic crate url₁ (sanitizeUrl crate raw₁) ∧
        KeepsPublic crate url₂ (sanitizeUrl crate raw₂)) ↔
      SameSignature url₁ url₂ := by
  have hsame : sanitizeUrl crate raw₁ = sanitizeUrl crate raw₂ ↔ SameSignature url₁ url₂ :=
    (sanitizeUrl_eq_iff hparse₁ hparse₂ hround₁ hround₂).trans hequal.stripToken_eq_iff
  constructor
  · rintro ⟨htexts, -, -⟩
    exact hsame.mp htexts
  · intro hsignature
    exact ⟨hsame.mpr hsignature, kept_of_sanitizeUrl hparse₁ hround₁,
      kept_of_sanitizeUrl hparse₂ hround₂⟩

/-! ## A small crate -/

/-- A key and a value about the first equals sign. -/
def plainPair (text : List Char) : String × String :=
  (String.ofList (text.takeWhile (· != '=')), String.ofList ((text.dropWhile (· != '=')).drop 1))

/-- Parses `wss` URLs with no character that is escaped, and writes them. -/
def plainCrate : UrlCrate where
  parse raw :=
    if startsWith raw "wss://" then
      let rest := raw.toList.takeWhile (· != '?')
      let query := raw.toList.dropWhile (· != '?')
      .ok {
        scheme := "wss"
        hostStr := some (String.ofList ((rest.drop 6).takeWhile (· != '/')))
        rest := String.ofList rest
        query := if query.isEmpty then none
          else some (((query.drop 1).splitOn '&').map plainPair) }
    else .error "relative URL without a base"
  write url :=
    match url.query with
    | none => url.rest
    | some pairs => url.rest ++ "?" ++ "&".intercalate (pairs.map (fun p => p.1 ++ "=" ++ p.2))

/-- A URL with a token and a signature. -/
def signedUrl (token signature : String) : String :=
  "wss://h/?role=p&tokenValue=" ++ token ++ "&X-Amz-Signature=" ++ signature

/-- What `signedUrl` parses to. -/
def parsedUrl (token signature : String) : Url where
  scheme := "wss"
  hostStr := some "h"
  rest := "wss://h/"
  query := some [("role", "p"), ("tokenValue", token), ("X-Amz-Signature", signature)]

lemma equalButSecrets_parsedUrl (token₁ token₂ signature₁ signature₂ : String) :
    EqualButSecrets (parsedUrl token₁ signature₁) (parsedUrl token₂ signature₂) := by
  refine ⟨rfl, rfl, rfl, ?_⟩
  have hrole : isSecretParam "role" = false := by decide
  have htoken : isSecretParam "tokenValue" = true := by decide
  have hsignature : isSecretParam "X-Amz-Signature" = true := by decide
  simp [Url.queryPairs, parsedUrl, hrole, htoken, hsignature]

/-- What the token is stripped from. -/
def strippedUrl (signature : String) : Url :=
  { parsedUrl "" signature with
    query := some [("role", "p"), ("X-Amz-Signature", signature)] }

lemma stripToken_parsedUrl (token signature : String) :
    stripToken (parsedUrl token signature) = strippedUrl signature := by
  have hrole : eqIgnoreAsciiCase "role" "tokenValue" = false := by decide
  have htoken : eqIgnoreAsciiCase "tokenValue" "tokenValue" = true := by decide
  have hsignature : eqIgnoreAsciiCase "X-Amz-Signature" "tokenValue" = false := by decide
  simp [stripToken, parsedUrl, strippedUrl, Url.queryPairs, Url.extendPairs, hrole, htoken,
    hsignature]

/-- The small crate reads the texts below, and what it writes. -/
lemma parse_signedUrl : ∀ pair ∈ [("a", "s"), ("b", "s"), ("a", "t")],
    plainCrate.parse (signedUrl pair.1 pair.2) = .ok (parsedUrl pair.1 pair.2) := by
  decide +kernel

lemma parse_write_stripToken {token signature : String} (h : signature ∈ ["s", "t"]) :
    plainCrate.parse (plainCrate.write (stripToken (parsedUrl token signature))) =
      .ok (stripToken (parsedUrl token signature)) := by
  have hall : ∀ signature ∈ ["s", "t"],
      plainCrate.parse (plainCrate.write (strippedUrl signature)) = .ok (strippedUrl signature) := by
    decide +kernel
  rw [stripToken_parsedUrl]
  exact hall signature h

/-- Two URLs with other tokens and the same signature. -/
theorem sanitized_urls_agree_signed :
    sanitizeUrl plainCrate (signedUrl "a" "s") = sanitizeUrl plainCrate (signedUrl "b" "s") := by
  have hsame : SameSignature (parsedUrl "a" "s") (parsedUrl "b" "s") := by
    have htoken : isPresignedParam "tokenValue" = false := by decide
    simp [SameSignature, Url.queryPairs, parsedUrl, htoken]
  exact ((sanitized_urls_agree_iff plainCrate (signedUrl "a" "s") (signedUrl "b" "s")
    (parsedUrl "a" "s") (parsedUrl "b" "s") (parse_signedUrl ("a", "s") (by simp))
    (parse_signedUrl ("b", "s") (by simp))
    (parse_write_stripToken (by simp)) (parse_write_stripToken (by simp))
    (equalButSecrets_parsedUrl "a" "b" "s" "s")).mpr hsame).1

/-- The signature of a presigned URL is in the logged text. -/
theorem logged_url_tells_signature :
    ¬ ∀ (crate : UrlCrate) (raw₁ raw₂ : String) (url₁ url₂ : Url),
      crate.parse raw₁ = .ok url₁ → crate.parse raw₂ = .ok url₂ →
      crate.parse (crate.write (stripToken url₁)) = .ok (stripToken url₁) →
      crate.parse (crate.write (stripToken url₂)) = .ok (stripToken url₂) →
      EqualButSecrets url₁ url₂ →
      sanitizeUrl crate raw₁ = sanitizeUrl crate raw₂ ∧
        KeepsPublic crate url₁ (sanitizeUrl crate raw₁) ∧
        KeepsPublic crate url₂ (sanitizeUrl crate raw₂) := by
  intro hall
  have hparse₁ := parse_signedUrl ("a", "s") (by simp)
  have hparse₂ := parse_signedUrl ("a", "t") (by simp)
  have hround₁ := @parse_write_stripToken "a" "s" (by simp)
  have hround₂ := @parse_write_stripToken "a" "t" (by simp)
  have htexts := (hall plainCrate _ _ _ _ hparse₁ hparse₂ hround₁ hround₂
    (equalButSecrets_parsedUrl "a" "a" "s" "t")).1
  have hstripped := (sanitizeUrl_eq_iff hparse₁ hparse₂ hround₁ hround₂).mp htexts
  rw [stripToken_parsedUrl, stripToken_parsedUrl] at hstripped
  simp [strippedUrl] at hstripped

end SsmBridge
