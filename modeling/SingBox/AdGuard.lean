import SingBox.Rule

/-!
# AdGuard filter lists

`common/convertor/adguard/convertor.go`. `ToOptions` reads an AdGuard DNS filter list line
by line, keeps the lines a domain rule can express and sorts them into eight buckets by
three flags: important, regular expression, exception. It then nests the buckets into one
headless rule, in a fixed order: an `and` with an inverted child for the ordinary
exceptions, an `or` for the important lines, an `and` with an inverted child for the
important exceptions. `FromOptions` walks that nesting back into the buckets and prints
them as a filter list.

Text is a list of characters. The functions of `sing` and `net/netip` that the line parser
calls are the parameters `Library`; `strings`, `strconv.ParseUint` and the line splitting
of `bufio.Scanner` are modelled. A headless rule is the part of `option.HeadlessRule` that
these two functions write and read.
-/

namespace SingBox

namespace AdGuard

/-! ### Strings -/

section Strings

variable (s : List Char)

def HasPrefix (pre : List Char) : Bool := pre.isPrefixOf s

def HasSuffix (suf : List Char) : Bool := suf.isSuffixOf s

def TrimSuffix (suf : List Char) : List Char :=
  if HasSuffix s suf then s.take (s.length - suf.length) else s

def Contains (sub : List Char) : List Char → Bool
  | [] => sub.isEmpty
  | c :: t => sub.isPrefixOf (c :: t) || Contains sub t

/-- `strings.Cut` at one separator character. -/
def Cut (sep : Char) : Option (List Char × List Char) :=
  match s.span (· != sep) with
  | (before, _ :: after) => some (before, after)
  | (_, []) => none

/-- Whether `strconv.ParseUint(s, 10, 8)` succeeds: decimal digits only, at most 255. -/
def ParseUint8 : Bool :=
  !s.isEmpty && s.all Char.isDigit &&
    decide (s.foldl (fun n c => 10 * n + (c.toNat - '0'.toNat)) 0 < 256)

end Strings

/-- The functions of other packages that the line parser calls. -/
structure Library where
  /-- `M.IsDomainName`. -/
  IsDomainName : List Char → Bool
  /-- `netip.ParseAddr`, with `IsUnspecified` of the address it returns. -/
  ParseAddr : List Char → Option Bool
  /-- `M.ParseAddr(s).IsUnspecified()`. -/
  IsUnspecified : List Char → Bool
  /-- `common.SubstringBefore`. -/
  SubstringBefore : List Char → List Char → List Char
  /-- `common.SubstringAfter`. -/
  SubstringAfter : List Char → List Char → List Char

/-! ### Headless rules -/

/-- The fields of `option.DefaultHeadlessRule` that `ToOptions` writes and `FromOptions`
reads. `ToOptions` fills the lists with `common.Map`, so none of them is a nil slice. -/
structure DefaultHeadlessRule where
  Domain : List (List Char) := []
  DomainRegex : List (List Char) := []
  Invert : Bool := false
  AdGuardDomain : List (List Char) := []
deriving DecidableEq, Repr

/-- `option.HeadlessRule` of type `default` or `logical`. -/
inductive HeadlessRule where
  | default (DefaultOptions : DefaultHeadlessRule)
  | logical (Mode : LogicalMode) (Rules : List HeadlessRule) (Invert : Bool)
deriving Repr

/-- How `ToOptions` and `FromOptions` fail: `E.New` with its message, `ErrInvalid`, or the
runtime panic of a slice expression. -/
inductive Error where
  | new (message : String)
  | ErrInvalid
  | sliceBoundsOutOfRange
deriving DecidableEq, Repr

/-! ### The line parser -/

structure AgdguardRuleLine where
  ruleLine : List Char
  isRawDomain : Bool := false
  isExclude : Bool := false
  isSuffix : Bool := false
  hasStart : Bool := false
  hasEnd : Bool := false
  isRegexp : Bool := false
  isImportant : Bool := false
deriving DecidableEq, Repr

section Parse

variable (lib : Library)

/-- `parseAdGuardHostLine`: `none` for its error, the domain of a hosts line for the
unspecified address, and the empty line for any other address. -/
def parseAdGuardHostLine (ruleLine : List Char) : Option (List Char) :=
  match Cut ruleLine ' ' with
  | none => none
  | some (before, after) =>
    match lib.ParseAddr before with
    | none => none
    | some isUnspecified =>
      if !isUnspecified then some []
      else if !lib.IsDomainName after then none
      else some after

def ignoreIPCIDRRegexp (ruleLine : List Char) : Bool :=
  let ruleLine :=
    if HasPrefix ruleLine "(http?:\\/\\/)".toList then ruleLine.drop 12
    else if HasPrefix ruleLine "(https?:\\/\\/)".toList then ruleLine.drop 13
    else if HasPrefix ruleLine "^".toList then ruleLine.drop 1
    else ruleLine
  ParseUint8 (lib.SubstringBefore ruleLine "\\.".toList) ||
    ParseUint8 (lib.SubstringBefore ruleLine ".".toList)

/-- One modifier after `$`: whether the loop ignores it, and whether it is `important`.
`app`, `network` and `dnstype` fall through like an unknown modifier. -/
def modifier (param : List Char) : Bool × Bool :=
  let paramParts := param.splitOn '='
  if paramParts.length > 0 ∧ paramParts.length ≤ 2 then
    if paramParts.headD [] = "important".toList then (true, true)
    else if paramParts.headD [] = "dnsrewrite".toList then
      (paramParts.length = 2 && lib.IsUnspecified (paramParts.getD 1 []), false)
    else (false, false)
  else (false, false)

/-- The modifier loop: `none` when some modifier is not ignored, and the line is skipped
(`continue parseLine`); else whether one of them is `important`. -/
def modifiers : List (List Char) → Option Bool
  | [] => some false
  | param :: params =>
    if (modifier lib param).1 then (modifiers params).map ((modifier lib param).2 || ·)
    else none

/-- `domainCheck`, the text handed to `M.IsDomainName` for a domain line. -/
def domainCheck (ruleLine : List Char) : List Char :=
  let domainCheck :=
    if HasPrefix ruleLine ".".toList || HasPrefix ruleLine "-".toList then 'r' :: ruleLine
    else ruleLine
  domainCheck.map fun c => if c = '*' then 'x' else c

/-- The checks of the domain branch that skip a line: a path, a query, a cosmetic filter,
a `~` modifier, an empty domain, or no domain name. An invalid domain is skipped whether
it is an address prefix or carries a port; those checks only choose the log message. -/
def unsupportedDomain (ruleLine : List Char) : Bool :=
  Contains "/".toList ruleLine || Contains "?".toList ruleLine || Contains "&".toList ruleLine ||
    ["[", "]", "(", ")", "!", "#"].any (fun c => Contains c.toList ruleLine) ||
    Contains "~".toList ruleLine || ruleLine.isEmpty || !lib.IsDomainName (domainCheck ruleLine)

/-- The anchors of a rule line, in the order the loop strips them: `@@`, a trailing `|`,
`||` or `|`, and `^`. -/
def stripAnchors (ruleLine : List Char) : AgdguardRuleLine :=
  let isExclude := HasPrefix ruleLine "@@".toList
  let ruleLine := if isExclude then ruleLine.drop 2 else ruleLine
  let ruleLine := TrimSuffix ruleLine "|".toList
  let isSuffix := HasPrefix ruleLine "||".toList
  let hasStart := !isSuffix && HasPrefix ruleLine "|".toList
  let ruleLine :=
    if isSuffix then ruleLine.drop 2 else if hasStart then ruleLine.drop 1 else ruleLine
  let hasEnd := HasSuffix ruleLine "^".toList
  let ruleLine := if hasEnd then ruleLine.dropLast else ruleLine
  { ruleLine, isExclude, isSuffix, hasStart, hasEnd }

/-- The part of the loop body of `ToOptions` after the hosts-line check: `none` is a
skipped line. -/
def parseRuleLine (ruleLine : List Char) : Except Error (Option AgdguardRuleLine) :=
  let ruleLine := TrimSuffix ruleLine "|".toList
  let modified := !HasPrefix ruleLine "/".toList && Contains "$".toList ruleLine
  let isImportant :=
    if modified then modifiers lib ((lib.SubstringAfter ruleLine "$".toList).splitOn ',')
    else some false
  match isImportant with
  | none => .ok none
  | some isImportant =>
    let it := stripAnchors (if modified then lib.SubstringBefore ruleLine "$".toList else ruleLine)
    if HasPrefix it.ruleLine "/".toList && HasSuffix it.ruleLine "/".toList then
      -- `ruleLine[1 : len(ruleLine)-1]` on the line "/" is the slice [1:0]
      if it.ruleLine.length < 2 then .error .sliceBoundsOutOfRange
      else
        let ruleLine := (it.ruleLine.drop 1).dropLast
        if ignoreIPCIDRRegexp lib ruleLine then .ok none
        else .ok (some { it with ruleLine, isRegexp := true, isImportant })
    else
      let hasScheme := Contains "://".toList it.ruleLine
      let ruleLine := if hasScheme then lib.SubstringAfter it.ruleLine "://".toList else it.ruleLine
      if unsupportedDomain lib ruleLine then .ok none
      else .ok (some { it with ruleLine, isSuffix := it.isSuffix || hasScheme, isImportant })

/-- The loop body of `ToOptions` for one line. -/
def parseLine (ruleLine : List Char) : Except Error (Option AgdguardRuleLine) :=
  if ruleLine.isEmpty then .ok none
  else if HasPrefix ruleLine "!".toList || HasPrefix ruleLine "#".toList then .ok none
  else if lib.IsDomainName ruleLine then .ok (some { ruleLine, isRawDomain := true })
  else
    match parseAdGuardHostLine lib ruleLine with
    | some hostLine =>
      .ok (if hostLine.isEmpty then none
        else some { ruleLine := hostLine, isRawDomain := true, hasStart := true, hasEnd := true })
    | none => parseRuleLine lib ruleLine

def parseLines : List (List Char) → Except Error (List AgdguardRuleLine)
  | [] => .ok []
  | line :: lines => do
    let parsed ← parseLine lib line
    let ruleLines ← parseLines lines
    pure (parsed.toList ++ ruleLines)

end Parse

/-- `bufio.Scanner` with `bufio.ScanLines`: the lines of the text without their `\n` or
`\r\n`, and no empty token after a final newline. -/
def scanLines (text : List Char) : List (List Char) :=
  let lines := text.splitOn '\n'
  let lines := if lines.getLast? = some [] then lines.dropLast else lines
  lines.map fun line => TrimSuffix line "\r".toList

/-! ### The rule assembly -/

def mapDomain (it : AgdguardRuleLine) : List Char :=
  let ruleLine := it.ruleLine
  let ruleLine :=
    if it.isSuffix then "||".toList ++ ruleLine
    else if it.hasStart then "|".toList ++ ruleLine
    else ruleLine
  if it.hasEnd then ruleLine ++ "^".toList else ruleLine

/-- The eight lists `ToOptions` builds and `FromOptions` rebuilds. -/
structure Buckets where
  importantDomain : List (List Char)
  importantDomainRegex : List (List Char)
  importantExcludeDomain : List (List Char)
  importantExcludeDomainRegex : List (List Char)
  domain : List (List Char)
  domainRegex : List (List Char)
  excludeDomain : List (List Char)
  excludeDomainRegex : List (List Char)
deriving DecidableEq, Repr

/-- One of the eight `common.Map(common.Filter(ruleLines, ...), mapDomain)`. -/
def bucket (ruleLines : List AgdguardRuleLine) (isImportant isRegexp isExclude : Bool) :
    List (List Char) :=
  (ruleLines.filter fun it =>
    it.isImportant == isImportant && it.isRegexp == isRegexp && it.isExclude == isExclude).map
    mapDomain

def buckets (ruleLines : List AgdguardRuleLine) : Buckets where
  importantDomain := bucket ruleLines true false false
  importantDomainRegex := bucket ruleLines true true false
  importantExcludeDomain := bucket ruleLines true false true
  importantExcludeDomainRegex := bucket ruleLines true true true
  domain := bucket ruleLines false false false
  domainRegex := bucket ruleLines false true false
  excludeDomain := bucket ruleLines false false true
  excludeDomainRegex := bucket ruleLines false true true

/-- One layer of the assembly: when its two buckets are not both empty, the logical rule
of `Mode` over their default rule and the rule so far. -/
def layer (Mode : LogicalMode) (Invert : Bool) (AdGuardDomain DomainRegex : List (List Char))
    (currentRule : HeadlessRule) : HeadlessRule :=
  if AdGuardDomain.length > 0 ∨ DomainRegex.length > 0 then
    .logical Mode [.default { AdGuardDomain, DomainRegex, Invert }, currentRule] false
  else currentRule

/-- `currentRule` at the end of `ToOptions`. -/
def assemble (b : Buckets) : HeadlessRule :=
  layer .and true b.importantExcludeDomain b.importantExcludeDomainRegex <|
    layer .or false b.importantDomain b.importantDomainRegex <|
      layer .and true b.excludeDomain b.excludeDomainRegex <|
        .default { AdGuardDomain := b.domain, DomainRegex := b.domainRegex }

def ToOptions (lib : Library) (reader : List Char) : Except Error (List HeadlessRule) := do
  let ruleLines ← parseLines lib (scanLines reader)
  if ruleLines.length = 0 then
    throw (.new "AdGuard rule-set is empty or all rules are unsupported")
  if ruleLines.all (·.isRawDomain) then
    return [.default { Domain := ruleLines.map (·.ruleLine) }]
  return [assemble (buckets ruleLines)]

/-! ### Decompiling -/

def emptyBuckets : Buckets := ⟨[], [], [], [], [], [], [], []⟩

/-- The `parse` loop of `FromOptions`, from the rule it has reached and the buckets filled
so far. -/
def parseRule : HeadlessRule → Buckets → Except Error Buckets
  | .default options, b =>
    if options.AdGuardDomain.length + options.DomainRegex.length = 0 then .error .ErrInvalid
    else .ok { b with domain := options.AdGuardDomain, domainRegex := options.DomainRegex }
  | .logical Mode [.default first, next] _, b =>
    if Mode = .and ∧ first.Invert then
      -- the first inverted layer fills the important exceptions, any later one the others
      if b.importantExcludeDomain.length = 0 ∧ b.importantExcludeDomainRegex.length = 0 then
        if first.AdGuardDomain.length + first.DomainRegex.length = 0 then .error .ErrInvalid
        else parseRule next { b with
          importantExcludeDomain := first.AdGuardDomain
          importantExcludeDomainRegex := first.DomainRegex }
      else if first.AdGuardDomain.length + first.DomainRegex.length = 0 then .error .ErrInvalid
      else parseRule next { b with
        excludeDomain := first.AdGuardDomain
        excludeDomainRegex := first.DomainRegex }
    else if Mode = .or ∧ !first.Invert then
      if first.AdGuardDomain.length + first.DomainRegex.length = 0 then .error .ErrInvalid
      else parseRule next { b with
        importantDomain := first.AdGuardDomain
        importantDomainRegex := first.DomainRegex }
    else .error .ErrInvalid
  | .logical _ _ _, _ => .error .ErrInvalid

/-- One loop of the output: every line of `ruleLines` between `head` and `tail`. -/
def writeLines (head tail : List Char) (ruleLines : List (List Char)) : List Char :=
  ruleLines.flatMap fun ruleLine => head ++ ruleLine ++ tail ++ ['\n']

def output (b : Buckets) : List Char :=
  writeLines [] "$important".toList b.importantDomain ++
    writeLines "/".toList "/$important".toList b.importantDomainRegex ++
    writeLines "@@".toList "$important".toList b.importantExcludeDomain ++
    writeLines "@@/".toList "/$important".toList b.importantExcludeDomainRegex ++
    writeLines [] [] b.domain ++
    writeLines "/".toList "/".toList b.domainRegex ++
    writeLines "@@".toList [] b.excludeDomain ++
    writeLines "@@/".toList "/".toList b.excludeDomainRegex

def FromOptions : List HeadlessRule → Except Error (List Char)
  | [rule] => (parseRule rule emptyBuckets).map output
  | _ => .error .ErrInvalid

/-! ### What `FromOptions` reads back -/

/-- The buckets `FromOptions` reads back from `assemble b`. The first inverted layer it
meets fills the important exceptions, so when there are none, the ordinary exceptions come
back as important ones. -/
def recovered (b : Buckets) : Buckets :=
  if b.importantExcludeDomain.length = 0 ∧ b.importantExcludeDomainRegex.length = 0 then
    { b with
      importantExcludeDomain := b.excludeDomain
      importantExcludeDomainRegex := b.excludeDomainRegex
      excludeDomain := []
      excludeDomainRegex := [] }
  else b

section Layers

variable (L R : List (List Char)) (currentRule : HeadlessRule) (b : Buckets)

theorem layer_of_empty {Mode : LogicalMode} {Invert : Bool} (h : L = [] ∧ R = []) :
    layer Mode Invert L R currentRule = currentRule := by
  simp [layer, h.1, h.2]

theorem layer_of_ne (Mode : LogicalMode) (Invert : Bool) (h : ¬(L = [] ∧ R = [])) :
    layer Mode Invert L R currentRule =
      .logical Mode [.default { AdGuardDomain := L, DomainRegex := R, Invert }, currentRule]
        false := by
  have hne : L.length > 0 ∨ R.length > 0 := by
    simp only [gt_iff_lt, List.length_pos_iff]
    tauto
  simp [layer, hne]

theorem parseRule_default (D DR : List (List Char)) :
    parseRule (.default { AdGuardDomain := D, DomainRegex := DR }) b =
      if D = [] ∧ DR = [] then .error .ErrInvalid
      else .ok { b with domain := D, domainRegex := DR } := by
  simp [parseRule]

theorem parseRule_layer_or (h : ¬(L = [] ∧ R = [])) :
    parseRule (layer .or false L R currentRule) b =
      parseRule currentRule { b with importantDomain := L, importantDomainRegex := R } := by
  rw [layer_of_ne L R currentRule .or false h]
  simp_all [parseRule]

theorem parseRule_layer_and_of_empty (h : ¬(L = [] ∧ R = []))
    (hb : b.importantExcludeDomain = [] ∧ b.importantExcludeDomainRegex = []) :
    parseRule (layer .and true L R currentRule) b =
      parseRule currentRule
        { b with importantExcludeDomain := L, importantExcludeDomainRegex := R } := by
  rw [layer_of_ne L R currentRule .and true h]
  simp_all [parseRule]

theorem parseRule_layer_and_of_ne (h : ¬(L = [] ∧ R = []))
    (hb : ¬(b.importantExcludeDomain = [] ∧ b.importantExcludeDomainRegex = [])) :
    parseRule (layer .and true L R currentRule) b =
      parseRule currentRule { b with excludeDomain := L, excludeDomainRegex := R } := by
  rw [layer_of_ne L R currentRule .and true h]
  simp only [parseRule, and_self, if_true, List.length_eq_zero_iff, Nat.add_eq_zero_iff]
  rw [if_neg hb, if_neg h]

end Layers

theorem parseRule_assemble (b : Buckets) :
    parseRule (assemble b) emptyBuckets =
      if b.domain = [] ∧ b.domainRegex = [] then .error .ErrInvalid
      else .ok (recovered b) := by
  rcases b with ⟨I, IR, IE, IER, D, DR, E, ER⟩
  unfold assemble
  by_cases hIE : IE = [] ∧ IER = []
  · rw [layer_of_empty _ _ _ hIE]
    by_cases hI : I = [] ∧ IR = [] <;> by_cases hE : E = [] ∧ ER = [] <;>
      simp [layer_of_empty, parseRule_layer_or, parseRule_layer_and_of_empty, parseRule_default,
        recovered, emptyBuckets, hIE, hI, hE]
  · rw [parseRule_layer_and_of_empty _ _ _ _ hIE (by simp [emptyBuckets])]
    by_cases hI : I = [] ∧ IR = [] <;> by_cases hE : E = [] ∧ ER = [] <;>
      simp [layer_of_empty, parseRule_layer_or, parseRule_layer_and_of_ne, parseRule_default,
        recovered, emptyBuckets, hIE, hI, hE]

theorem FromOptions_assemble (b : Buckets) :
    FromOptions [assemble b] =
      if b.domain = [] ∧ b.domainRegex = [] then .error .ErrInvalid
      else .ok (output (recovered b)) := by
  rw [FromOptions, parseRule_assemble]
  split_ifs <;> rfl

/-! ### A list of one important line -/

def importantOnlyList : List Char := "||a.com^$important".toList

/-- What `ToOptions` makes of `importantOnlyList`: the important line, or the default rule
of the empty ordinary buckets. -/
def importantOnlyRule : HeadlessRule :=
  .logical .or [.default { AdGuardDomain := ["||a.com^".toList] }, .default {}] false

section ImportantOnly

-- the line is no domain name, its modifier list is `important`, and `a.com` is a domain
variable (lib : Library) (hline : lib.IsDomainName importantOnlyList = false)
  (hafter : lib.SubstringAfter importantOnlyList "$".toList = "important".toList)
  (hbefore : lib.SubstringBefore importantOnlyList "$".toList = "||a.com^".toList)
  (hdomain : lib.IsDomainName "a.com".toList = true)
include hline hafter hbefore hdomain

theorem parseLine_importantOnlyList :
    parseLine lib importantOnlyList =
      .ok (some
        { ruleLine := "a.com".toList, isSuffix := true, hasEnd := true, isImportant := true }) := by
  have hhost : parseAdGuardHostLine lib importantOnlyList = none := rfl
  have hmodifiers : modifiers lib ("important".toList.splitOn ',') = some true := rfl
  have hanchors : stripAnchors "||a.com^".toList =
      { ruleLine := "a.com".toList, isSuffix := true, hasEnd := true } := by decide
  have hcheck : domainCheck "a.com".toList = "a.com".toList := by decide
  rw [parseLine, if_neg (by decide), if_neg (by decide), hline, hhost]
  simp only [Bool.false_eq_true, if_false, parseRuleLine,
    show TrimSuffix importantOnlyList "|".toList = importantOnlyList by decide,
    show (!HasPrefix importantOnlyList "/".toList && Contains "$".toList importantOnlyList) = true
      by decide,
    if_true, hafter, hbefore, hmodifiers, hanchors]
  simp +decide only [unsupportedDomain, hcheck, hdomain, if_false, Bool.or_false, Bool.not_true,
    List.any_cons]

theorem ToOptions_importantOnlyList :
    ToOptions lib importantOnlyList = .ok [importantOnlyRule] := by
  have hscan : scanLines importantOnlyList = [importantOnlyList] := by decide
  simp only [ToOptions, hscan, parseLines,
    parseLine_importantOnlyList lib hline hafter hbefore hdomain]
  rfl

theorem FromOptions_importantOnlyList :
    ToOptions lib importantOnlyList = .ok [importantOnlyRule] ∧
      FromOptions [importantOnlyRule] = .error .ErrInvalid :=
  ⟨ToOptions_importantOnlyList lib hline hafter hbefore hdomain, rfl⟩

end ImportantOnly

/-! ### A regular expression with an open bracket -/

/-- A list of one line, `/[/`: the regular expression `[`. -/
def unclosedRegexList : List Char := "/[/".toList

section UnclosedRegex

-- the line is no domain name, and `[` holds neither separator of `ignoreIPCIDRRegexp`
variable (lib : Library) (hline : lib.IsDomainName unclosedRegexList = false)
  (hescaped : lib.SubstringBefore "[".toList "\\.".toList = "[".toList)
  (hdot : lib.SubstringBefore "[".toList ".".toList = "[".toList)
include hline hescaped hdot

theorem parseLine_unclosedRegexList :
    parseLine lib unclosedRegexList =
      .ok (some { ruleLine := "[".toList, isRegexp := true }) := by
  have hhost : parseAdGuardHostLine lib unclosedRegexList = none := rfl
  have hanchors : stripAnchors unclosedRegexList = { ruleLine := unclosedRegexList } := by
    decide
  have hignore : ignoreIPCIDRRegexp lib "[".toList = false := by
    simp only [ignoreIPCIDRRegexp,
      show HasPrefix "[".toList "(http?:\\/\\/)".toList = false by decide,
      show HasPrefix "[".toList "(https?:\\/\\/)".toList = false by decide,
      show HasPrefix "[".toList "^".toList = false by decide, Bool.false_eq_true, if_false,
      hescaped, hdot]
    decide
  rw [parseLine, if_neg (by decide), if_neg (by decide), hline, hhost]
  simp only [Bool.false_eq_true, if_false, parseRuleLine,
    show TrimSuffix unclosedRegexList "|".toList = unclosedRegexList by decide,
    show (!HasPrefix unclosedRegexList "/".toList && Contains "$".toList unclosedRegexList) =
      false by decide, hanchors]
  rw [if_pos (by decide), if_neg (by decide),
    show (unclosedRegexList.drop 1).dropLast = "[".toList by decide, hignore]
  rfl

theorem ToOptions_unclosedRegexList :
    ToOptions lib unclosedRegexList = .ok [.default { DomainRegex := ["[".toList] }] := by
  have hscan : scanLines unclosedRegexList = [unclosedRegexList] := by decide
  simp only [ToOptions, hscan, parseLines,
    parseLine_unclosedRegexList lib hline hescaped hdot]
  rfl

end UnclosedRegex

/-- The text before the first `sep`, or all of it. -/
def beforeFirst (sep : List Char) : List Char → List Char
  | [] => []
  | c :: t => if sep.isPrefixOf (c :: t) then [] else c :: beforeFirst sep t

/-- A `Library` for ASCII text: a domain name is letters, digits, `.`, `-` and `_`, the
unspecified address is `0.0.0.0`, and the substrings are cut at the first separator. -/
def asciiLibrary : Library where
  IsDomainName s := !s.isEmpty && s.all fun c => c.isAlphanum || c = '.' || c = '-' || c = '_'
  ParseAddr s := if s = "0.0.0.0".toList then some true else none
  IsUnspecified s := s = "0.0.0.0".toList
  SubstringBefore s sep := beforeFirst sep s
  SubstringAfter s sep :=
    if Contains sep s then (s.drop (beforeFirst sep s).length).drop sep.length else s

theorem FromOptions_importantOnlyList_ascii :
    (asciiLibrary.IsDomainName importantOnlyList = false ∧
      asciiLibrary.SubstringAfter importantOnlyList "$".toList = "important".toList ∧
      asciiLibrary.SubstringBefore importantOnlyList "$".toList = "||a.com^".toList ∧
      asciiLibrary.IsDomainName "a.com".toList = true) ∧
    ToOptions asciiLibrary importantOnlyList = .ok [importantOnlyRule] ∧
      FromOptions [importantOnlyRule] = .error .ErrInvalid :=
  ⟨by decide, FromOptions_importantOnlyList asciiLibrary (by decide) (by decide) (by decide)
    (by decide)⟩

end AdGuard

end SingBox
