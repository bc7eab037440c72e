import StoryEngine.Data.IpAddresses
import StoryEngine.Schema.Json
import StoryEngine.Text.Case
import StoryEngine.Text.Separators
import StoryEngine.Text.Words

namespace StoryEngine.Security

open Data Schema Text

/-! # Outbound URLs

A URL is taken when its scheme, its host and the addresses of that host are allowed.  Addresses are
recognised by their texts.
-/

structure UrlPolicyError where
  code : Text
  message : Text
deriving DecidableEq

structure OutboundUrlPolicyOptions where
  allowHttp : Option Bool := none
  allowHttps : Option Bool := none
  denyPrivateNetworks : Option Bool := none
  allowlistHosts : Option (List Text) := none

structure ParsedUrl where
  href : Text
  protocol : Text
  hostname : Text
  username : Text := []
  password : Text := []
deriving DecidableEq

/-- The URL parser, `net.isIP` and `dns.lookup` with the addresses of all records. -/
structure UrlPlatform where
  cases : CaseMapping
  parseUrl : Text → Option ParsedUrl
  isIP : Text → Nat
  lookup : Text → Option (List Text)

def endsWith (text ending : Text) : Bool := ending.isSuffixOf text

def normalizeHostname (cases : CaseMapping) (hostname : Text) : Text :=
  (cases.toLowerCase (trim hostname)).rdropWhile (· == '.')

def hostnameMatchesAllowlist (cases : CaseMapping) (hostname : Text) (allowlistHosts : List Text) :
    Bool :=
  let normalized := normalizeHostname cases hostname
  allowlistHosts.any fun entry =>
    let candidate := normalizeHostname cases entry
    if candidate.isEmpty then false
    else normalized == candidate || endsWith normalized ('.' :: candidate)

/-- `Number.parseInt(text, 10)`; `none` is `NaN`. -/
def parseInt (text : Text) : Option Int :=
  let (negative, unsigned) := JsNumber.readSign (text.dropWhile isSpace)
  let digits := unsigned.takeWhile Char.isDigit
  if digits.isEmpty then none
  else
    let value : Int := Nat.ofDigitChars 10 digits 0
    some (if negative then -value else value)

def isPrivateIPv4 (ip : Text) : Bool :=
  match (splitAt (· == '.') ip).map parseInt with
  | [some a, some b, some _, some _] =>
    if a == 0 || a == 10 || a == 127 then true
    else if a == 169 && b == 254 then true
    else if a == 172 && decide (16 ≤ b) && decide (b ≤ 31) then true
    else if a == 192 && b == 168 then true
    else if a == 100 && decide (64 ≤ b) && decide (b ≤ 127) then true
    else decide (224 ≤ a)
  | _ => true

def isPrivateIPv6 (cases : CaseMapping) (ip : Text) : Bool :=
  let normalized := cases.toLowerCase ip
  if normalized == "::1".toList || normalized == "::".toList then true
  else if startsWith normalized "::ffff:".toList then
    isPrivateIPv4 (normalized.drop "::ffff:".toList.length)
  else if startsWith normalized "fc".toList || startsWith normalized "fd".toList then true
  else if startsWith normalized "fe8".toList || startsWith normalized "fe9".toList then true
  else startsWith normalized "fea".toList || startsWith normalized "feb".toList

def isPrivateIpAddress (platform : UrlPlatform) (ip : Text) : Bool :=
  let family := platform.isIP ip
  if family == 4 then isPrivateIPv4 ip
  else if family == 6 then isPrivateIPv6 platform.cases ip
  else true

def resolveHostIps (platform : UrlPlatform) (hostname : Text) : Option (List Text) :=
  if platform.isIP hostname ≠ 0 then some [hostname] else platform.lookup hostname

def checkAddresses (platform : UrlPlatform) (hostname : Text) : Option UrlPolicyError :=
  match resolveHostIps platform hostname with
  | none => some ⟨"dns_resolution_failed", "Failed to resolve URL hostname."⟩
  | some addresses =>
    if addresses.isEmpty then
      some ⟨"dns_resolution_empty", "No address records found for URL hostname."⟩
    else if addresses.any (isPrivateIpAddress platform) then
      some ⟨"private_network_blocked",
        "URL resolves to a private or reserved network address."⟩
    else none

def assertSafeOutboundUrl (platform : UrlPlatform) (rawUrl : Text)
    (options : OutboundUrlPolicyOptions) : Except UrlPolicyError ParsedUrl :=
  match platform.parseUrl rawUrl with
  | none => .error ⟨"invalid_url", "URL is invalid."⟩
  | some parsed =>
    let protocol := platform.cases.toLowerCase parsed.protocol
    let hostname := normalizeHostname platform.cases parsed.hostname
    let allowlistHosts := options.allowlistHosts.getD []
    if !options.allowHttp.getD true && protocol == "http:".toList then
      .error ⟨"http_blocked", "HTTP URLs are not allowed."⟩
    else if !options.allowHttps.getD true && protocol == "https:".toList then
      .error ⟨"https_blocked", "HTTPS URLs are not allowed."⟩
    else if protocol != "http:".toList && protocol != "https:".toList then
      .error ⟨"scheme_blocked", "Only HTTP(S) URLs are allowed."⟩
    else if hostname.isEmpty then
      .error ⟨"hostname_missing", "URL hostname is required."⟩
    else if !parsed.username.isEmpty || !parsed.password.isEmpty then
      .error ⟨"userinfo_blocked", "URL userinfo is not allowed."⟩
    else if hostname == "localhost".toList || endsWith hostname ".localhost".toList ||
        endsWith hostname ".local".toList then
      .error ⟨"localhost_blocked", "Localhost URLs are not allowed."⟩
    else if !allowlistHosts.isEmpty &&
        !hostnameMatchesAllowlist platform.cases hostname allowlistHosts then
      .error ⟨"host_not_allowlisted", "URL hostname is not allowlisted."⟩
    else if options.denyPrivateNetworks.getD true then
      match checkAddresses platform hostname with
      | some error => .error error
      | none => .ok parsed
    else .ok parsed

def privateBlocks : List (Nat × Nat) := [
  (ofOctets 0 0 0 0, 8), (ofOctets 10 0 0 0, 8), (ofOctets 127 0 0 0, 8),
  (ofOctets 169 254 0 0, 16), (ofOctets 172 16 0 0, 12), (ofOctets 192 168 0 0, 16),
  (ofOctets 100 64 0 0, 10), (ofOctets 224 0 0 0, 3)]

def PrivateIPv4 (address : Nat) : Prop :=
  ∃ block ∈ privateBlocks, InBlock 32 address block.1 block.2

/-- `::`, `::1`, `fc00::/7`, `fe80::/10` and the images of the short ones. -/
def PrivateIPv6 (address : Nat) : Prop :=
  address = 0 ∨ address = 1 ∨ InBlock 128 address (0xfc00 * 2 ^ 112) 7 ∨
    InBlock 128 address (0xfe80 * 2 ^ 112) 10 ∨
    Mapped address ∧ PrivateIPv4 (address % 2 ^ 32)

/-- The host is that of the entry or in its domain, both as normalized names. -/
def InDomain (cases : CaseMapping) (hostname entry : Text) : Prop :=
  let domain := normalizeHostname cases entry
  domain ≠ [] ∧ (normalizeHostname cases hostname = domain ∨
    ∃ labels, normalizeHostname cases hostname = labels ++ '.' :: domain)

structure SafeUrl (platform : UrlPlatform) (options : OutboundUrlPolicyOptions) (url : ParsedUrl)
    (addresses : List Text) : Prop where
  scheme : platform.cases.toLowerCase url.protocol ∈ ["http:".toList, "https:".toList]
  userinfo : url.username = [] ∧ url.password = []
  allowed : options.allowlistHosts.getD [] ≠ [] → ∃ entry ∈ options.allowlistHosts.getD [],
    InDomain platform.cases (normalizeHostname platform.cases url.hostname) entry
  resolved : resolveHostIps platform (normalizeHostname platform.cases url.hostname) = some addresses
  publicIPv4 : ∀ address : Ipv4Address, dottedText address ∈ addresses → ¬PrivateIPv4 address
  publicIPv6 : ∀ address : Ipv6Address, ∀ text, Ipv6Text address text → text ∈ addresses →
    ¬PrivateIPv6 address

structure UrlPlatform.Documented (platform : UrlPlatform) : Prop where
  lower : ∀ text : Text, (∀ c ∈ text, c.toNat < 128) →
    platform.cases.toLowerCase text = text.map Char.toLower
  ipv4 : ∀ address : Ipv4Address, platform.isIP (dottedText address) = 4
  ipv6 : ∀ address : Ipv6Address, ∀ text, Ipv6Text address text → platform.isIP text = 6

theorem parseInt_decimalText (number : Nat) : parseInt (decimalText number) = some (number : Int) := by
  have digits : ∀ c ∈ decimalText number, c.isDigit = true := mem_decimalText
  have occupied : decimalText number ≠ [] := Nat.toDigits_ne_nil
  have value : Nat.ofDigitChars 10 (decimalText number) 0 = number :=
    Nat.ofDigitChars_toDigits (by decide) (by decide)
  obtain ⟨first, rest, same⟩ := List.exists_cons_of_ne_nil occupied
  have isFirst : first.isDigit = true := digits first (same ▸ List.mem_cons_self)
  have solid : (decimalText number).dropWhile isSpace = decimalText number := by
    rw [same, List.dropWhile_cons_of_neg]
    simp [isSpace_digit isFirst]
  have unsigned : JsNumber.readSign (decimalText number) = (false, decimalText number) := by
    rw [same]
    unfold JsNumber.readSign
    split
    · next plus =>
        rw [(List.cons.inj plus).1] at isFirst
        cases isFirst
    · next minus =>
        rw [(List.cons.inj minus).1] at isFirst
        cases isFirst
    · rfl
  have all : (decimalText number).takeWhile Char.isDigit = decimalText number :=
    List.takeWhile_eq_self_iff.mpr digits
  have nonempty : (decimalText number).isEmpty = false := by
    rw [same]
    rfl
  simp only [parseInt, solid, unsigned, all, nonempty, value, Bool.false_eq_true, if_false]

def PrivateOctets (a b : Nat) : Prop :=
  a = 0 ∨ a = 10 ∨ a = 127 ∨ a = 169 ∧ b = 254 ∨ a = 172 ∧ 16 ≤ b ∧ b ≤ 31 ∨ a = 192 ∧ b = 168 ∨
    a = 100 ∧ 64 ≤ b ∧ b ≤ 127 ∨ 224 ≤ a

theorem PrivateIPv4.octets {address : Nat} (isPrivate : PrivateIPv4 address) :
    PrivateOctets (address / 2 ^ 24 % 256) (address / 2 ^ 16 % 256) := by
  obtain ⟨block, inBlocks, inside⟩ := isPrivate
  simp only [privateBlocks, List.mem_cons, List.not_mem_nil, or_false] at inBlocks
  rw [PrivateOctets]
  rcases inBlocks with rfl | rfl | rfl | rfl | rfl | rfl | rfl | rfl
  all_goals
    simp only [InBlock, ofOctets] at inside
    omega

theorem splitAt_dottedText (address : Nat) :
    splitAt (· == '.') (dottedText address) = (octets address).map decimalText := by
  apply splitAt_join
  · exact List.cons_ne_nil _ _
  · intro part isPart dot
    obtain ⟨number, _, rfl⟩ := List.mem_map.mp isPart
    exact absurd (mem_decimalText '.' dot) (by decide)

theorem isPrivateIPv4_dottedText (address : Nat)
    (isPrivate : PrivateOctets (address / 2 ^ 24 % 256) (address / 2 ^ 16 % 256)) :
    isPrivateIPv4 (dottedText address) = true := by
  have parsed : ((octets address).map decimalText).map parseInt =
      (octets address).map fun number : Nat => some (number : Int) := by
    rw [List.map_map]
    exact List.map_congr_left fun number _ => parseInt_decimalText number
  rw [isPrivateIPv4, splitAt_dottedText, parsed, octets]
  generalize address / 2 ^ 24 % 256 = a at isPrivate ⊢
  generalize address / 2 ^ 16 % 256 = b at isPrivate ⊢
  simp only [List.map_cons, List.map_nil]
  rw [PrivateOctets] at isPrivate
  split_ifs with first second third fourth fifth
  · rfl
  · rfl
  · rfl
  · rfl
  · rfl
  · simp only [Bool.or_eq_true, Bool.and_eq_true, beq_iff_eq, decide_eq_true_eq] at *
    rcases isPrivate with zero | ten | loopback | linkLocal | privateBlock | home | shared | multicast
    all_goals omega

section

variable {cases : CaseMapping} {rest later : Text}

theorem isPrivateIPv6_mapped (lower : cases.toLowerCase ("::ffff:".toList ++ rest) = "::ffff:".toList ++ rest)
    (isPrivate : isPrivateIPv4 rest = true) :
    isPrivateIPv6 cases ("::ffff:".toList ++ rest) = true := by
  have begins : startsWith ("::ffff:".toList ++ rest) "::ffff:".toList = true :=
    List.isPrefixOf_iff_prefix.mpr (List.prefix_append _ rest)
  simp only [isPrivateIPv6, lower, begins, if_true, List.drop_left, isPrivate, ite_self]

theorem isPrivateIPv6_begins {beginning : Text}
    (known : beginning ∈ (["fc", "fd", "fe8", "fe9", "fea", "feb"] : List String).map String.toList)
    (lower : cases.toLowerCase (beginning ++ later) = beginning ++ later) :
    isPrivateIPv6 cases (beginning ++ later) = true := by
  have table : ∀ beginning ∈ (["fc", "fd", "fe8", "fe9", "fea", "feb"] : List String).map
      String.toList, beginning.head? = some 'f' := by decide
  have letters := table beginning known
  have begins : startsWith (beginning ++ later) beginning = true :=
    List.isPrefixOf_iff_prefix.mpr (List.prefix_append _ later)
  have notMapped : startsWith (beginning ++ later) "::ffff:".toList = false := by
    cases beginning with
    | nil => cases letters
    | cons c others =>
      obtain rfl := Option.some.inj letters
      rfl
  simp only [isPrivateIPv6, lower]
  split
  · rfl
  · rw [if_neg (by rw [notMapped]; exact Bool.false_ne_true)]
    simp only [List.map_cons, List.map_nil, List.mem_cons, List.not_mem_nil, or_false] at known
    rcases known with rfl | rfl | rfl | rfl | rfl | rfl
    all_goals simp [startsWith]

theorem isPrivateIPv4_of_undotted (free : '.' ∉ rest) : isPrivateIPv4 rest = true := by
  have split : splitAt (· == '.') rest = [rest] :=
    @splitAt_join '.' [rest] (List.cons_ne_nil rest [])
      (List.forall_mem_cons.mpr ⟨free, fun _ absent => absurd absent List.not_mem_nil⟩)
  rw [isPrivateIPv4, split, List.map_cons, List.map_nil]
  cases parseInt rest with
  | none => rfl
  | some value => rfl

theorem hexText_begins {number : Nat} (large : 16 ≤ number) :
    ∃ last, hexText number = hexText (number / 16) ++ [last] :=
  ⟨_, Nat.toDigits_of_base_le (by decide) large⟩

end

section

variable {address : Nat}

theorem groupsText_first (large : 16 ≤ address / 2 ^ 112 % 65536) :
    ∃ later, groupsText (groups address) = hexText (address / 2 ^ 112 % 65536 / 16) ++ later := by
  obtain ⟨later, begins⟩ := @groupsText_begins (address / 2 ^ 112 % 65536) (groups address).tail
    (by omega)
  obtain ⟨last, digits⟩ := hexText_begins large
  rw [digits, List.append_assoc] at begins
  exact ⟨[last] ++ later, begins⟩

theorem groupsText_uniqueLocal
    (unique : InBlock 128 address (0xfc00 * 2 ^ 112) 7) :
    ∃ beginning ∈ ["fc".toList, "fd".toList], ∃ later,
      groupsText (groups address) = beginning ++ later := by
  simp only [InBlock] at unique
  obtain ⟨later, begins⟩ := @groupsText_first address (by omega)
  obtain ⟨third, digits⟩ := @hexText_begins (address / 2 ^ 112 % 65536 / 16) (by omega)
  rw [digits, List.append_assoc] at begins
  have first : address / 2 ^ 112 % 65536 / 16 / 16 = 0xfc ∨
      address / 2 ^ 112 % 65536 / 16 / 16 = 0xfd := by omega
  refine ⟨_, ?_, _, begins⟩
  rcases first with first | first
  all_goals
    rw [first]
    decide

theorem groupsText_linkLocal
    (link : InBlock 128 address (0xfe80 * 2 ^ 112) 10) :
    ∃ beginning ∈ ["fe8".toList, "fe9".toList, "fea".toList, "feb".toList], ∃ later,
      groupsText (groups address) = beginning ++ later := by
  simp only [InBlock] at link
  obtain ⟨later, begins⟩ := @groupsText_first address (by omega)
  have first : address / 2 ^ 112 % 65536 / 16 = 0xfe8 ∨ address / 2 ^ 112 % 65536 / 16 = 0xfe9 ∨
      address / 2 ^ 112 % 65536 / 16 = 0xfea ∨ address / 2 ^ 112 % 65536 / 16 = 0xfeb := by omega
  refine ⟨_, ?_, _, begins⟩
  rcases first with first | first | first | first
  all_goals
    rw [first]
    decide

theorem groups_mapped (mapped : Mapped address) : groups address =
    [0, 0, 0, 0, 0, 0xffff, address / 2 ^ 16 % 65536, address % 65536] := by
  rw [Mapped] at mapped
  simp only [groups, List.cons.injEq, and_true]
  omega

theorem isPrivateIPv4_groups (high low : Nat) :
    isPrivateIPv4 (hexText high ++ ':' :: hexText low) = true := by
  apply isPrivateIPv4_of_undotted
  intro dot
  have hexDot : '.' ∉ "0123456789abcdef".toList := by decide
  rcases List.mem_append.mp dot with inHigh | inLow
  · exact hexDot (mem_hexText '.' inHigh)
  · rcases List.mem_cons.mp inLow with colon | inLow
    · cases colon
    · exact hexDot (mem_hexText '.' inLow)

end

theorem ipv6Text_lower {platform : UrlPlatform} (documented : platform.Documented)
    {address : Ipv6Address} {text : Text} (isText : Ipv6Text address text) :
    platform.cases.toLowerCase text = text := by
  have all : (addressChars.all fun c => decide (c.toNat < 128 ∧ c.toLower = c)) = true := by decide
  have table (c : Char) (member : c ∈ addressChars) : c.toNat < 128 ∧ c.toLower = c :=
    of_decide_eq_true (List.all_eq_true.mp all c member)
  rw [documented.lower text fun c member => (table c (isText.mem member)).1]
  have same : text.map Char.toLower = text.map id :=
    List.map_congr_left fun c member => (table c (isText.mem member)).2
  rw [same, List.map_id]

theorem isPrivateIPv6_of_private {platform : UrlPlatform} (documented : platform.Documented)
    {address : Ipv6Address} {text : Text} (isText : Ipv6Text address text)
    (isPrivate : PrivateIPv6 address) : isPrivateIPv6 platform.cases text = true := by
  have lower := ipv6Text_lower documented isText
  cases isText with
  | dotted mapped =>
    apply isPrivateIPv6_mapped lower
    apply isPrivateIPv4_dottedText
    rcases isPrivate with zero | one | unique | link | ⟨_, short⟩
    · rw [Mapped, zero] at mapped
      omega
    · rw [Mapped, one] at mapped
      omega
    · simp only [Mapped, InBlock] at mapped unique
      omega
    · simp only [Mapped, InBlock] at mapped link
      omega
    · exact short.octets
  | hexadecimal =>
    rcases isPrivate with zero | one | unique | link | ⟨mapped, short⟩
    · rw [zero] at lower ⊢
      have text : groupsText (groups 0) = "::".toList := by decide +kernel
      rw [text] at lower ⊢
      rw [isPrivateIPv6, lower]
      decide
    · rw [one] at lower ⊢
      have text : groupsText (groups 1) = "::1".toList := by decide +kernel
      rw [text] at lower ⊢
      rw [isPrivateIPv6, lower]
      decide
    · obtain ⟨beginning, isKnown, later, begins⟩ := groupsText_uniqueLocal unique
      have known : ∀ text ∈ ["fc".toList, "fd".toList],
          text ∈ (["fc", "fd", "fe8", "fe9", "fea", "feb"] : List String).map String.toList := by
        decide
      rw [begins] at lower ⊢
      exact isPrivateIPv6_begins (known beginning isKnown) lower
    · obtain ⟨beginning, isKnown, later, begins⟩ := groupsText_linkLocal link
      have known : ∀ text ∈ ["fe8".toList, "fe9".toList, "fea".toList, "feb".toList],
          text ∈ (["fc", "fd", "fe8", "fe9", "fea", "feb"] : List String).map String.toList := by
        decide
      rw [begins] at lower ⊢
      exact isPrivateIPv6_begins (known beginning isKnown) lower
    · rw [groups_mapped mapped, groupsText_mapped] at lower ⊢
      exact isPrivateIPv6_mapped lower (isPrivateIPv4_groups _ _)

section

variable {platform : UrlPlatform} {options : OutboundUrlPolicyOptions} {url : ParsedUrl}
  {hostname rawUrl : Text}

theorem endsWith_iff {text ending : Text} :
    endsWith text ending = true ↔ ∃ before, text = before ++ ending := by
  rw [endsWith, List.isSuffixOf_iff_suffix]
  constructor
  · rintro ⟨before, same⟩
    exact ⟨before, same.symm⟩
  · rintro ⟨before, same⟩
    exact ⟨before, same.symm⟩

theorem hostnameMatchesAllowlist_inDomain {cases : CaseMapping} {allowlistHosts : List Text}
    (accepted : hostnameMatchesAllowlist cases hostname allowlistHosts = true) :
    ∃ entry ∈ allowlistHosts, InDomain cases hostname entry := by
  obtain ⟨entry, inList, accepts⟩ := List.any_eq_true.mp accepted
  refine ⟨entry, inList, ?_⟩
  dsimp only at accepts
  split at accepts
  · cases accepts
  · next nonempty =>
      refine ⟨fun empty => nonempty (List.isEmpty_iff.mpr empty), ?_⟩
      rcases Bool.or_eq_true_iff.mp accepts with same | inside
      · exact .inl (beq_iff_eq.mp same)
      · exact .inr (endsWith_iff.mp inside)

theorem checkAddresses_none (passed : checkAddresses platform hostname = none) :
    ∃ addresses, resolveHostIps platform hostname = some addresses ∧
      ∀ address ∈ addresses, isPrivateIpAddress platform address = false := by
  rw [checkAddresses] at passed
  split at passed
  · cases passed
  · next addresses resolved =>
      split_ifs at passed with empty blocked
      refine ⟨addresses, resolved, fun address member => ?_⟩
      cases isPrivate : isPrivateIpAddress platform address with
      | false => rfl
      | true => exact absurd (List.any_eq_true.mpr ⟨address, member, isPrivate⟩) blocked

theorem dottedText_private (documented : platform.Documented) {address : Ipv4Address}
    (isPrivate : PrivateIPv4 address) :
    isPrivateIpAddress platform (dottedText address) = true := by
  have recognised := isPrivateIPv4_dottedText address isPrivate.octets
  simp only [isPrivateIpAddress, documented.ipv4 address, recognised]
  rfl

theorem ipv6Text_private (documented : platform.Documented) {address : Ipv6Address} {text : Text}
    (isText : Ipv6Text address text) (isPrivate : PrivateIPv6 address) :
    isPrivateIpAddress platform text = true := by
  have recognised := isPrivateIPv6_of_private documented isText isPrivate
  simp only [isPrivateIpAddress, documented.ipv6 address text isText, recognised]
  rfl

/-- A URL that passes with private networks denied has no address in one of them. -/
theorem assertSafeOutboundUrl_safe (documented : platform.Documented)
    (denies : options.denyPrivateNetworks.getD true = true)
    (passed : assertSafeOutboundUrl platform rawUrl options = .ok url) :
    platform.parseUrl rawUrl = some url ∧ ∃ addresses, SafeUrl platform options url addresses := by
  rw [assertSafeOutboundUrl] at passed
  cases parsed : platform.parseUrl rawUrl with
  | none =>
    rw [parsed] at passed
    cases passed
  | some found =>
    rw [parsed] at passed
    dsimp only at passed
    split_ifs at passed with http https scheme host userinfo loopback allowlist
    cases checked : checkAddresses platform (normalizeHostname platform.cases found.hostname) with
    | some error =>
      rw [checked] at passed
      cases passed
    | none =>
      rw [checked] at passed
      cases passed
      obtain ⟨addresses, resolved, isPublic⟩ := checkAddresses_none checked
      refine ⟨rfl, addresses, ?_, ?_, ?_, resolved, ?_, ?_⟩
      · simp only [Bool.and_eq_true, bne_iff_ne, ne_eq, not_and, not_not] at scheme
        rw [List.mem_cons, List.mem_singleton]
        by_cases isHttp : platform.cases.toLowerCase url.protocol = "http:".toList
        · exact .inl isHttp
        · exact .inr (scheme isHttp)
      · simp only [Bool.or_eq_true, Bool.not_eq_true', List.isEmpty_eq_false_iff, not_or,
          not_not] at userinfo
        exact userinfo
      · intro some
        apply hostnameMatchesAllowlist_inDomain
        by_contra rejected
        apply allowlist
        rw [Bool.and_eq_true, Bool.not_eq_true', Bool.not_eq_true', List.isEmpty_eq_false_iff]
        exact ⟨some, eq_false_of_ne_true rejected⟩
      · intro address inAddresses isPrivate
        have blocked := dottedText_private documented isPrivate
        rw [isPublic _ inAddresses] at blocked
        cases blocked
      · intro address text isText inAddresses isPrivate
        have blocked := ipv6Text_private documented isText isPrivate
        rw [isPublic _ inAddresses] at blocked
        cases blocked

end

def sampleIsIP (text : Text) : Nat :=
  let parts := splitAt (· == '.') text
  if ':' ∈ text then 6
  else if parts.length = 4 ∧ ∀ part ∈ parts, part ≠ [] ∧ part.all Char.isDigit = true then 4
  else 0

def sampleUrl : ParsedUrl where
  href := "https://hooks.example.com/x"
  protocol := "https:"
  hostname := "hooks.example.com"

def samplePlatform : UrlPlatform where
  cases := .ascii
  parseUrl rawUrl := if rawUrl = sampleUrl.href then some sampleUrl else none
  isIP := sampleIsIP
  lookup hostname :=
    if hostname = sampleUrl.hostname then
      some ["93.184.216.34", "2606:2800:220:1:248:1893:25c8:1946"]
    else none

theorem samplePlatform_documented : samplePlatform.Documented where
  lower _ _ := rfl
  ipv4 := by
    intro address
    have parts : ((octets address).map decimalText).length = 4 ∧
        ∀ part ∈ (octets address).map decimalText, part ≠ [] ∧ part.all Char.isDigit = true := by
      refine ⟨rfl, fun part isPart => ?_⟩
      obtain ⟨number, _, rfl⟩ := List.mem_map.mp isPart
      exact ⟨Nat.toDigits_ne_nil, List.all_eq_true.mpr fun c member => mem_decimalText c member⟩
    simp only [samplePlatform, sampleIsIP, splitAt_dottedText]
    rw [if_neg (colon_notMem_dottedText address), if_pos parts]
  ipv6 := by
    intro address text isText
    simp only [samplePlatform, sampleIsIP]
    rw [if_pos isText.colon_mem]

/-- The webhook is sent, since its host is in the domain and has public addresses. -/
theorem sampleUrl_safe :
    assertSafeOutboundUrl samplePlatform sampleUrl.href
        { allowHttp := some false, allowlistHosts := some ["example.com".toList] } = .ok sampleUrl ∧
      ∃ addresses, SafeUrl samplePlatform
        { allowHttp := some false, allowlistHosts := some ["example.com".toList] } sampleUrl
        addresses := by
  have passed : assertSafeOutboundUrl samplePlatform sampleUrl.href
      { allowHttp := some false, allowlistHosts := some ["example.com".toList] } = .ok sampleUrl := by
    decide +kernel
  exact ⟨passed, (assertSafeOutboundUrl_safe samplePlatform_documented rfl passed).2⟩

end StoryEngine.Security
