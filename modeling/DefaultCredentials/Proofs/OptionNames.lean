import DefaultCredentials.Settings
import Mathlib.Logic.Relation

/-!
# The names that options answer to

Settings are read from the values that a caller gives and from the variables of a process, and only
some names count: among what is given the name and the alias of an option, and among the variables
the alias, the bare name of an option that has an alias, and the name with the prefix.  Letter case
never counts.

* `Settings.Decides` is the table by which an option finds its value, and `Settings.decides_iff`
  says that the reader goes by it.
* `Settings.Immaterial` lists the changes to names and variables that are not to matter, one at a
  time; `Settings.find_of_immaterial` says that no option takes notice of one.
* `Settings.read_of_recognised` puts both together: what is read is told by the values that decide,
  problems included, and stays the same under any number of such changes.
-/

namespace DefaultCredentials

namespace Field

/-- The variables of an option; the first of them that is set counts. -/
def variableNames (f : Field) : List String :=
  match f.alias? with
  | none => [f.prefixedName]
  | some shared => [shared, f.name, f.prefixedName]

/-- Whether an option answers to the name of a variable. -/
def AnswersTo (f : Field) (name : String) : Prop :=
  ∃ v ∈ f.variableNames, Text.sameName name v = true

/-- Whether a value given under a name is for an option: under its name or its alias, whose letter
case counts as little as that of variables. -/
def Takes (f : Field) (name : String) : Prop :=
  Text.sameName name f.name = true ∨
    ∃ shared, f.alias? = some shared ∧ Text.sameName name shared = true

/-- The name at which a problem with a variable is reported: the alias as it is, and the name of the
option for all others. -/
def title (f : Field) (v : String) : String :=
  if f.alias? = some v then v else f.name

theorem isAscii_of_mem_variableNames :
    ∀ f ∈ all, ∀ v ∈ f.variableNames, Text.isAscii v = true := by
  decide +kernel

theorem eq_of_toLower_eq : ∀ f ∈ all, ∀ g ∈ all, ∀ v ∈ f.variableNames, ∀ w ∈ g.variableNames,
    v.toList.map Char.toLower = w.toList.map Char.toLower → f = g := by
  decide +kernel

theorem mem_all (f : Field) : f ∈ all := by
  cases f <;> decide

/-- A name is answered to by one option at most. -/
theorem AnswersTo.unique {f g : Field} {name : String} (hf : f.AnswersTo name)
    (hg : g.AnswersTo name) : f = g := by
  obtain ⟨v, hv, hname⟩ := hf
  obtain ⟨w, hw, hname'⟩ := hg
  rw [Text.sameName_iff] at hname hname'
  have hsame : Text.sameName v w = true := Text.sameName_iff.mpr (hname.symm.trans hname')
  rw [Text.sameName_of_ascii (isAscii_of_mem_variableNames f f.mem_all v hv)
    (isAscii_of_mem_variableNames g g.mem_all w hw)] at hsame
  exact eq_of_toLower_eq f f.mem_all g g.mem_all v hv w hw hsame

end Field

namespace Settings

/-! ### Looking a variable up -/

theorem lookupVariable_append (xs ys : List (String × String)) (name : String) :
    lookupVariable (xs ++ ys) name = (lookupVariable ys name).or (lookupVariable xs name) := by
  simp [lookupVariable, List.find?_append, Option.map_or]

theorem lookupVariable_cons (v : String × String) (rest : List (String × String)) (name : String) :
    lookupVariable (v :: rest) name =
      (lookupVariable rest name).or (if Text.sameName v.1 name then some v.2 else none) := by
  have hone : lookupVariable [v] name = if Text.sameName v.1 name then some v.2 else none := by
    cases h : Text.sameName v.1 name <;> simp [lookupVariable, h]
  rw [← hone]
  exact lookupVariable_append [v] rest name

/-- The first of some names of variables that is set, for an option. -/
def firstOf (f : Field) (names : List String) (environment : List (String × String)) :
    Option Found :=
  names.findSome? fun v => (lookupVariable environment v).map fun value => ⟨f.title v, .text value⟩

/-- The variables of an option are tried in turn. -/
theorem fromEnvironment_eq (f : Field) (environment : List (String × String)) :
    fromEnvironment f environment = firstOf f f.variableNames environment := by
  have hprefixed : f.title f.prefixedName = f.name := by
    cases f <;> rfl
  unfold fromEnvironment firstOf Field.variableNames
  cases ha : f.alias? with
  | none => cases hp : lookupVariable environment f.prefixedName <;> simp [hp, hprefixed]
  | some shared =>
      have hshared : f.title shared = shared := by simp [Field.title, ha]
      have hname : f.title f.name = f.name := by simp [Field.title]
      cases hs : lookupVariable environment shared with
      | some value => simp [hs, hshared]
      | none =>
          cases hn : lookupVariable environment f.name with
          | some value => simp [hs, hn, hname]
          | none =>
              cases hp : lookupVariable environment f.prefixedName <;>
                simp [hs, hn, hp, hprefixed]

/-! ### What decides -/

section specification

variable (f : Field) (given : List (String × Value)) (environment : List (String × String))

/-- A value is given for an option. -/
def IsGiven : Prop :=
  ∃ g ∈ given, f.Takes g.1

/-- No variable has a name, letter case ignored. -/
def IsUnset (name : String) : Prop :=
  ∀ v ∈ environment, Text.sameName v.1 name = false

/-- The last variable of a name, letter case ignored, has a value. -/
def IsLast (name value : String) : Prop :=
  ∃ before spelled after, environment = before ++ (spelled, value) :: after ∧
    Text.sameName spelled name = true ∧ IsUnset after name

/-- What decides an option: the first value that is given for it, or else the last variable of the
first of its names that is set, or nothing. -/
inductive Decides : Option Found → Prop
  | supplied {before after : List (String × Value)} {spelled name : String} {value : Value} :
      given = before ++ (spelled, value) :: after → ¬ IsGiven f before →
      givenName? f spelled = some name → Decides (some ⟨name, value⟩)
  | set {higher lower : List String} {name value : String} : ¬ IsGiven f given →
      f.variableNames = higher ++ name :: lower → (∀ v ∈ higher, IsUnset environment v) →
      IsLast environment name value → Decides (some ⟨f.title name, .text value⟩)
  | absent : ¬ IsGiven f given → (∀ v ∈ f.variableNames, IsUnset environment v) → Decides none

end specification

variable {f : Field} {given : List (String × Value)} {environment : List (String × String)}

theorem lookupVariable_eq_none_iff {name : String} :
    lookupVariable environment name = none ↔ IsUnset environment name := by
  simp [lookupVariable, IsUnset]

theorem lookupVariable_eq_some_iff {name value : String} :
    lookupVariable environment name = some value ↔ IsLast environment name value := by
  constructor
  · intro h
    obtain ⟨v, hv, rfl⟩ := Option.map_eq_some_iff.mp h
    obtain ⟨hname, after, before, hsplit, hafter⟩ := List.find?_eq_some_iff_append.mp hv
    refine ⟨before.reverse, v.1, after.reverse, ?_, hname, fun w hw => ?_⟩
    · rw [← environment.reverse_reverse, hsplit]
      simp
    · simpa using hafter w (List.mem_reverse.mp hw)
  · rintro ⟨before, spelled, after, rfl, hname, hafter⟩
    rw [lookupVariable_append, lookupVariable_cons, lookupVariable_eq_none_iff.mpr hafter,
      if_pos hname]
    rfl

theorem givenName?_eq_none_iff {name : String} : givenName? f name = none ↔ ¬ f.Takes name := by
  unfold givenName? Field.Takes
  cases f.alias? with
  | none => simp
  | some shared =>
      by_cases hexact : name = f.name
      · simp [hexact, Text.sameName]
      · cases hs : Text.sameName name shared <;> simp [hexact, hs]

theorem fromGiven_eq_none_iff : fromGiven f given = none ↔ ¬ IsGiven f given := by
  simp [fromGiven, IsGiven, givenName?_eq_none_iff]

theorem fromGiven_eq_some_iff {name : String} {value : Value} :
    fromGiven f given = some ⟨name, value⟩ ↔ ∃ before spelled after,
      given = before ++ (spelled, value) :: after ∧ ¬ IsGiven f before ∧
        givenName? f spelled = some name := by
  unfold fromGiven
  rw [List.findSome?_eq_some_iff]
  constructor
  · rintro ⟨before, g, after, rfl, hg, hbefore⟩
    obtain ⟨_, hname, ⟨⟩⟩ := Option.map_eq_some_iff.mp hg
    exact ⟨before, g.1, after, rfl, by simpa [IsGiven, givenName?_eq_none_iff] using hbefore,
      hname⟩
  · rintro ⟨before, spelled, after, rfl, hbefore, hname⟩
    exact ⟨before, _, after, rfl, by simp [hname],
      by simpa [IsGiven, givenName?_eq_none_iff] using hbefore⟩

/-- An option finds what decides. -/
theorem decides_iff {found : Option Found} :
    Decides f given environment found ↔ find f given environment = found := by
  unfold find
  constructor
  · intro hd
    cases hd with
    | supplied hsplit hbefore hname =>
        rw [fromGiven_eq_some_iff.mpr ⟨_, _, _, hsplit, hbefore, hname⟩, Option.orElse_some]
    | set hg hsplit hhigher hlast =>
        rw [fromGiven_eq_none_iff.mpr hg, Option.orElse_none, fromEnvironment_eq,
          firstOf, List.findSome?_eq_some_iff]
        refine ⟨_, _, _, hsplit, by rw [lookupVariable_eq_some_iff.mpr hlast]; rfl, ?_⟩
        exact fun v hv => by rw [lookupVariable_eq_none_iff.mpr (hhigher v hv)]; rfl
    | absent hg hunset =>
        rw [fromGiven_eq_none_iff.mpr hg, Option.orElse_none, fromEnvironment_eq,
          firstOf, List.findSome?_eq_none_iff]
        exact fun v hv => by rw [lookupVariable_eq_none_iff.mpr (hunset v hv)]; rfl
  · rintro rfl
    cases hg : fromGiven f given with
    | some found =>
        obtain ⟨before, spelled, after, hsplit, hbefore, hname⟩ := fromGiven_eq_some_iff.mp hg
        exact .supplied hsplit hbefore hname
    | none =>
        replace hg := fromGiven_eq_none_iff.mp hg
        rw [Option.orElse_none, fromEnvironment_eq, firstOf]
        cases hv : f.variableNames.findSome? _ with
        | none =>
            rw [List.findSome?_eq_none_iff] at hv
            refine .absent hg fun v hmem => lookupVariable_eq_none_iff.mp ?_
            simpa using hv v hmem
        | some found =>
            obtain ⟨higher, v, lower, hsplit, hset, hhigher⟩ := List.findSome?_eq_some_iff.mp hv
            obtain ⟨value, hvalue, rfl⟩ := Option.map_eq_some_iff.mp hset
            refine .set hg hsplit (fun w hw => ?_) (lookupVariable_eq_some_iff.mp hvalue)
            exact lookupVariable_eq_none_iff.mp (by simpa using hhigher w hw)

/-! ### Changes that do not matter -/

/-- What settings are read from. -/
structure Origins where
  given : List (String × Value)
  environment : List (String × String)

namespace Origins

def read (o : Origins) : Except (List Problem) Settings :=
  Settings.read o.given o.environment

end Origins

/-- A change to what settings are read from that is not to matter. -/
inductive Immaterial : Origins → Origins → Prop
  /-- The name of a variable is spelled in other letter case. -/
  | respelled {given : List (String × Value)} {before after : List (String × String)}
      {name name' value : String} : Text.sameName name name' = true →
      Immaterial ⟨given, before ++ (name, value) :: after⟩
        ⟨given, before ++ (name', value) :: after⟩
  /-- A variable that no option answers to is removed. -/
  | foreign {given : List (String × Value)} {before after : List (String × String)}
      {name value : String} : (∀ f : Field, ¬ f.AnswersTo name) →
      Immaterial ⟨given, before ++ (name, value) :: after⟩ ⟨given, before ++ after⟩
  /-- Two neighbours of different names change places. -/
  | exchanged {given : List (String × Value)} {before after : List (String × String)}
      {v w : String × String} : Text.sameName v.1 w.1 = false →
      Immaterial ⟨given, before ++ v :: w :: after⟩ ⟨given, before ++ w :: v :: after⟩
  /-- A variable of an option for which a value is given is removed. -/
  | overridden {given : List (String × Value)} {before after : List (String × String)}
      {f : Field} {name value : String} : f.AnswersTo name → IsGiven f given →
      Immaterial ⟨given, before ++ (name, value) :: after⟩ ⟨given, before ++ after⟩
  /-- A variable that comes again later, letter case ignored, is removed. -/
  | replaced {given : List (String × Value)} {before between after : List (String × String)}
      {name name' value value' : String} : Text.sameName name name' = true →
      Immaterial ⟨given, before ++ (name, value) :: between ++ (name', value') :: after⟩
        ⟨given, before ++ between ++ (name', value') :: after⟩
  /-- A variable of an option is removed while one of its names that come first is set. -/
  | outranked {given : List (String × Value)} {before after : List (String × String)}
      {f : Field} {higher lower : List String} {first name value : String} : f.AnswersTo name →
      f.variableNames = higher ++ lower → (∀ v ∈ higher, Text.sameName name v = false) →
      first ∈ higher → ¬ IsUnset (before ++ after) first →
      Immaterial ⟨given, before ++ (name, value) :: after⟩ ⟨given, before ++ after⟩
  /-- A given value of a name that is no option's is removed. -/
  | ungiven {before after : List (String × Value)} {environment : List (String × String)}
      {name : String} {value : Value} : (∀ f : Field, ¬ f.Takes name) →
      Immaterial ⟨before ++ (name, value) :: after, environment⟩ ⟨before ++ after, environment⟩

variable {o o' : Origins} {before after : List (String × String)} {name value : String}

theorem lookupVariable_insert {v : String} (hv : Text.sameName name v = false) :
    lookupVariable (before ++ (name, value) :: after) v = lookupVariable (before ++ after) v := by
  simp [lookupVariable_append, lookupVariable_cons, hv]

theorem firstOf_congr {names : List String} {environment' : List (String × String)}
    (h : ∀ v ∈ names, lookupVariable environment v = lookupVariable environment' v) :
    firstOf f names environment = firstOf f names environment' := by
  induction names with
  | nil => rfl
  | cons v rest ih =>
      simp only [firstOf, List.findSome?_cons] at ih ⊢
      rw [h v List.mem_cons_self, ih fun w hw => h w (List.mem_cons_of_mem v hw)]

theorem fromEnvironment_insert (hf : ¬ f.AnswersTo name) :
    fromEnvironment f (before ++ (name, value) :: after) = fromEnvironment f (before ++ after) := by
  rw [fromEnvironment_eq, fromEnvironment_eq]
  refine firstOf_congr fun v hv => lookupVariable_insert ?_
  exact Bool.eq_false_iff.mpr fun hname => hf ⟨v, hv, hname⟩

theorem fromEnvironment_outranked {higher lower : List String} {first : String}
    (hsplit : f.variableNames = higher ++ lower)
    (hname : ∀ v ∈ higher, Text.sameName name v = false)
    (hfirst : first ∈ higher) (hset : ¬ IsUnset (before ++ after) first) :
    fromEnvironment f (before ++ (name, value) :: after) = fromEnvironment f (before ++ after) := by
  have hsame : firstOf f higher (before ++ (name, value) :: after) =
      firstOf f higher (before ++ after) :=
    firstOf_congr fun v hv => lookupVariable_insert (hname v hv)
  obtain ⟨found, hfound⟩ : ∃ found, firstOf f higher (before ++ after) = some found := by
    rw [← Option.isSome_iff_exists, firstOf, List.isSome_findSome?, List.any_eq_true]
    refine ⟨first, hfirst, ?_⟩
    rw [Option.isSome_map, ← Option.ne_none_iff_isSome]
    exact mt lookupVariable_eq_none_iff.mp hset
  have hall (environment : List (String × String)) : fromEnvironment f environment =
      (firstOf f higher environment).or (firstOf f lower environment) := by
    rw [fromEnvironment_eq, hsplit, firstOf, List.findSome?_append]
    rfl
  rw [hall, hall, hsame, hfound, Option.some_or, Option.some_or]

theorem fromGiven_insert {before after : List (String × Value)} {name : String} {value : Value}
    (hname : givenName? f name = none) :
    fromGiven f (before ++ (name, value) :: after) = fromGiven f (before ++ after) := by
  simp [fromGiven, List.findSome?_append, hname]

/-- Where a value is given, variables do not matter. -/
theorem find_of_isGiven (hg : IsGiven f given) (environment' : List (String × String)) :
    find f given environment = find f given environment' := by
  obtain ⟨found, hfound⟩ := Option.ne_none_iff_exists'.mp
    (mt fromGiven_eq_none_iff.mp (not_not_intro hg))
  rw [find_of_given hfound, find_of_given hfound]

/-- What is found among the variables decides, if nothing is given. -/
theorem find_congr {environment' : List (String × String)}
    (h : fromEnvironment f environment = fromEnvironment f environment') :
    find f given environment = find f given environment' := by
  rw [find, find, h]

/-- **One change.**  No option takes notice of a change that is not to matter. -/
theorem find_of_immaterial (hc : Immaterial o o') (f : Field) :
    find f o.given o.environment = find f o'.given o'.environment := by
  cases hc with
  | respelled hname =>
      refine find_congr ?_
      rw [fromEnvironment_eq, fromEnvironment_eq]
      refine firstOf_congr fun v _ => ?_
      rw [Text.sameName_iff] at hname
      simp [lookupVariable_append, lookupVariable_cons, Text.sameName, hname]
  | foreign hname => exact find_congr (fromEnvironment_insert (hname f))
  | @exchanged _ before after v w hne =>
      refine find_congr ?_
      rw [fromEnvironment_eq, fromEnvironment_eq]
      refine firstOf_congr fun x _ => ?_
      have hnot : ¬ (Text.sameName v.1 x = true ∧ Text.sameName w.1 x = true) := by
        rintro ⟨hv, hw⟩
        rw [Text.sameName_iff] at hv hw
        rw [Text.sameName, hv, hw, beq_self_eq_true] at hne
        cases hne
      by_cases hv : Text.sameName v.1 x = true <;> by_cases hw : Text.sameName w.1 x = true <;>
        simp_all [lookupVariable_append, lookupVariable_cons]
  | @overridden given _ _ g name _ hname hgiven =>
      by_cases hf : IsGiven f given
      · exact find_of_isGiven hf _
      · refine find_congr (fromEnvironment_insert fun hanswers => hf ?_)
        rwa [hanswers.unique hname]
  | @replaced _ before between after name name' _ _ hsame =>
      refine find_congr ?_
      rw [fromEnvironment_eq, fromEnvironment_eq]
      refine firstOf_congr fun v _ => ?_
      by_cases hv : Text.sameName name v = true
      · rw [Text.sameName_iff] at hsame hv
        have hv' : Text.sameName name' v = true := Text.sameName_iff.mpr (hsame.symm.trans hv)
        simp [lookupVariable_append, lookupVariable_cons, hv']
      · simp [lookupVariable_append, lookupVariable_cons, hv]
  | @outranked _ _ _ g _ _ _ name _ hname hsplit hhigher hfirst hset =>
      by_cases hf : f.AnswersTo name
      · rw [← hname.unique hf] at *
        exact find_congr (fromEnvironment_outranked hsplit hhigher hfirst hset)
      · exact find_congr (fromEnvironment_insert hf)
  | ungiven hname =>
      rw [find, find, fromGiven_insert (givenName?_eq_none_iff.mpr (hname f))]

/-! ### What is read -/

/-- The problem of an option for which this was found, if it has one. -/
def problemOf (f : Field) (found : Option Found) : Option Problem :=
  match f with
  | .metadataHost => problem? (readField checkText standard.metadataHost found)
  | .metadataTimeout => problem? (readField checkTimeout standard.metadataTimeout found)
  | .tokenUri => problem? (readField checkText standard.tokenUri found)
  | .requestTimeout => problem? (readField checkTimeout standard.requestTimeout found)
  | .useClientCertificate =>
    problem? (readField checkFlag standard.useClientCertificate found)
  | .commandTimeout => problem? (readField checkTimeout standard.commandTimeout found)
  | .logLevel => problem? (readField checkLevel standard.logLevel found)
  | .jsonLogs => problem? (readField checkFlag standard.jsonLogs found)

/-- Settings have an option as it was found. -/
def Has (s : Settings) (f : Field) (found : Option Found) : Prop :=
  match f with
  | .metadataHost => readField checkText standard.metadataHost found = .ok s.metadataHost
  | .metadataTimeout =>
    readField checkTimeout standard.metadataTimeout found = .ok s.metadataTimeout
  | .tokenUri => readField checkText standard.tokenUri found = .ok s.tokenUri
  | .requestTimeout => readField checkTimeout standard.requestTimeout found = .ok s.requestTimeout
  | .useClientCertificate =>
    readField checkFlag standard.useClientCertificate found = .ok s.useClientCertificate
  | .commandTimeout => readField checkTimeout standard.commandTimeout found = .ok s.commandTimeout
  | .logLevel => readField checkLevel standard.logLevel found = .ok s.logLevel
  | .jsonLogs => readField checkFlag standard.jsonLogs found = .ok s.jsonLogs

/-- What reading comes to if this was found for each option: settings that have all of it, or the
problems, of which there is one at least, in the order of the options. -/
def ComesOf (found : Field → Option Found) : Except (List Problem) Settings → Prop
  | .ok s => ∀ f, s.Has f (found f)
  | .error problems => problems ≠ [] ∧ problems = Field.all.filterMap fun f => problemOf f (found f)

theorem problem?_eq_none {α : Type} {x : Except Problem α} (h : problem? x = none) :
    ∃ a, x = .ok a := by
  cases x with
  | ok a => exact ⟨a, rfl⟩
  | error p => cases h

theorem comesOf_read (given : List (String × Value)) (environment : List (String × String)) :
    ComesOf (fun f => find f given environment) (read given environment) := by
  unfold read
  dsimp only
  split
  · rename_i hhost hprobe huri hrequest hcertificate hcommand hlevel hjson
    intro f
    cases f with
    | metadataHost => exact hhost
    | metadataTimeout => exact hprobe
    | tokenUri => exact huri
    | requestTimeout => exact hrequest
    | useClientCertificate => exact hcertificate
    | commandTimeout => exact hcommand
    | logLevel => exact hlevel
    | jsonLogs => exact hjson
  · rename_i hnot
    refine ⟨fun hnil => ?_, rfl⟩
    -- Without a problem every option has a value, which is the other case.
    rw [List.filterMap_eq_nil_iff] at hnil
    simp only [List.forall_mem_cons, id] at hnil
    obtain ⟨hhost, hprobe, huri, hrequest, hcertificate, hcommand, hlevel, hjson, -⟩ := hnil
    obtain ⟨host, hhost⟩ := problem?_eq_none hhost
    obtain ⟨probe, hprobe⟩ := problem?_eq_none hprobe
    obtain ⟨uri, huri⟩ := problem?_eq_none huri
    obtain ⟨request, hrequest⟩ := problem?_eq_none hrequest
    obtain ⟨certificate, hcertificate⟩ := problem?_eq_none hcertificate
    obtain ⟨command, hcommand⟩ := problem?_eq_none hcommand
    obtain ⟨level, hlevel⟩ := problem?_eq_none hlevel
    obtain ⟨json, hjson⟩ := problem?_eq_none hjson
    exact hnot host probe uri request certificate command level json hhost hprobe huri hrequest
      hcertificate hcommand hlevel hjson

/-- What is read is told by what each option finds. -/
theorem read_congr (h : ∀ f, find f o.given o.environment = find f o'.given o'.environment) :
    o.read = o'.read := by
  simp only [Origins.read, read, h]

/-- **What is read.**  Each option is told by what decides it, the value or the problem that it
makes, and changes that are not to matter, however many of them, leave what is read as it is. -/
theorem read_of_recognised (o : Origins) :
    (∃ found : Field → Option Found,
      (∀ f x, Decides f o.given o.environment x ↔ x = found f) ∧ ComesOf found o.read) ∧
    ∀ o', Relation.EqvGen Immaterial o o' → o'.read = o.read := by
  refine ⟨⟨fun f => find f o.given o.environment, fun f x => ?_, ?_⟩, fun o' hchanges => ?_⟩
  · rw [decides_iff, eq_comm]
  · exact comesOf_read o.given o.environment
  · induction hchanges with
    | rel o o' hc => exact (read_congr (find_of_immaterial hc)).symm
    | refl o => rfl
    | symm o o' _ ih => exact ih.symm
    | trans o o' o'' _ _ ih ih' => exact ih'.trans ih

/-- Of two variables that differ in case the first does not matter.  Nor does the spelling of the
second, a variable of another program, or a given value that is no option's. -/
theorem read_of_recognised_spellings :
    ∃ o o' : Origins,
      o = ⟨[], [("ADCRED_LOG_LEVEL", "debug"), ("Path", "/bin"), ("adcred_log_level", "loud")]⟩ ∧
      o' = ⟨[("colour", .text "red")], [("Adcred_Log_Level", "loud")]⟩ ∧
      Relation.EqvGen Immaterial o o' ∧ o'.read = o.read := by
  have hagain : Text.sameName "ADCRED_LOG_LEVEL" "adcred_log_level" = true :=
    (Text.sameName_of_ascii (by decide +kernel) (by decide +kernel)).mpr (by decide +kernel)
  have hspelled : Text.sameName "adcred_log_level" "Adcred_Log_Level" = true :=
    (Text.sameName_of_ascii (by decide +kernel) (by decide +kernel)).mpr (by decide +kernel)
  have hpath : ∀ f : Field, ¬ f.AnswersTo "Path" := by
    rintro f ⟨v, hv, hname⟩
    rw [Text.sameName_of_ascii (by decide +kernel)
      (Field.isAscii_of_mem_variableNames f f.mem_all v hv)] at hname
    have hnot : ∀ f ∈ Field.all, ∀ v ∈ f.variableNames,
        "Path".toList.map Char.toLower ≠ v.toList.map Char.toLower := by
      decide +kernel
    exact hnot f f.mem_all v hv hname
  have hcolour : ∀ f : Field, ¬ f.Takes "colour" := by
    intro f
    rw [← givenName?_eq_none_iff]
    cases f <;> decide +kernel
  have hchanges : Relation.EqvGen Immaterial
      ⟨[], [("ADCRED_LOG_LEVEL", "debug"), ("Path", "/bin"), ("adcred_log_level", "loud")]⟩
      ⟨[("colour", .text "red")], [("Adcred_Log_Level", "loud")]⟩ := by
    refine .trans _ _ _ (.rel _ _ (@Immaterial.replaced [] [] [_] [] _ _ _ _ hagain)) ?_
    refine .trans _ _ _ (.rel _ _ (@Immaterial.foreign [] [] _ _ _ hpath)) ?_
    refine .trans _ _ _ (.rel _ _ (@Immaterial.respelled [] [] [] _ _ _ hspelled)) ?_
    exact .symm _ _ (.rel _ _ (@Immaterial.ungiven [] [] _ _ _ hcolour))
  exact ⟨_, _, rfl, rfl, hchanges, (read_of_recognised _).2 _ hchanges⟩

end Settings
end DefaultCredentials
