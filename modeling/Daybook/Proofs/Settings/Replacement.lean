import Daybook.Proofs.Settings.Validation

/-!
Contract: settings that are replaced again and again.

Owns:
- one replacement, and the changes that it gives in their order;
- settings that have no change under a name that settings keep for themselves;
- the record of changes that settings carry into a replacement;
- what one replacement makes of such a record, and what a chain of them does;
- the settings at the end of a chain, as the changes that were given last;
- chains of requests in a session, which leave all other settings as they are.

Does not own: whether the changes are valid.
-/

namespace Daybook

/-- One replacement: the changes of a record, if there is one, and then single ones. -/
structure Replacement where
  newer : Option Record
  single : List (Text × Value)

namespace Replacement

/-- What the replacement is given in place of a record. -/
def value (replacement : Replacement) : Value :=
  (replacement.newer.map Value.record).getD .null

/-- All changes in the order in which they are given. -/
def given (replacement : Replacement) : List (Text × Value) :=
  replacement.newer.getD [] ++ replacement.single

/-- Whether every change is to a setting that there is. -/
def IsKnown (replacement : Replacement) : Prop :=
  ∀ name ∈ Record.names replacement.given, name ∈ Record.names Settings.defaults

theorem changes_value (replacement : Replacement) :
    Settings.Given.changes (.value replacement.value) = .ok (replacement.newer.getD []) := by
  obtain ⟨newer, single⟩ := replacement
  cases newer with
  | none => rfl
  | some fields => cases fields <;> rfl

end Replacement

namespace Settings

/-- The names that settings keep for themselves, and by which a change would be another thing than
the value of a setting. -/
def keptNames : List Text :=
  fixedMembers ++ [membersMember, changesMember, valuesMember, replaceMember, listMember]

theorem notMem_keptNames_of_known :
    ∀ name ∈ Record.names defaults, name ∉ keptNames ∧ name ∉ replacementNames := by
  decide

/-- Settings each of whose changes has a name of its own, and none that settings keep for
themselves. -/
structure IsPlain (settings : Settings) : Prop where
  distinct : (Record.names settings.overrides).Nodup
  free : ∀ name ∈ keptNames, name ∉ Record.names settings.overrides

theorem IsPlain.of_known
    {settings : Settings}
    (distinct : (Record.names settings.overrides).Nodup)
    (known :
      ∀ name ∈ Record.names settings.overrides, name ∈ Record.names defaults) :
    settings.IsPlain where
  distinct := distinct
  free := fun name isKept member => (notMem_keptNames_of_known name (known name member)).1 isKept

/-- Settings with all changes of a list after their own. -/
def extended (settings : Settings) (given : List (Text × Value)) : Settings :=
  ⟨Record.merge settings.overrides given⟩

section Plain

variable
  {settings : Settings}
  (plain : settings.IsPlain)

include plain

theorem IsPlain.get?_eq_none
    {name : Text}
    (isKept : name ∈ keptNames) :
    Record.get? settings.overrides name = none :=
  Record.get?_eq_none_iff.2 (plain.free name isKept)

theorem IsPlain.changes_eq : settings.changes = .record settings.overrides :=
  changes_of_get?_eq_none (plain.get?_eq_none (by decide))

theorem IsPlain.listing_eq : settings.listing = .ok settings.values := by
  have noListing : Record.get? settings.overrides listMember = none :=
    plain.get?_eq_none (by decide)
  have noValues : Record.get? settings.overrides valuesMember = none :=
    plain.get?_eq_none (by decide)
  simp only [listing, noListing, noValues]

/-- Plain settings are shown with all their values and changes, if their numbers can be written. -/
theorem IsPlain.view_eq :
    settings.view = settings.shown.map fun text =>
      ⟨settings.values, settings.overrides, text, settings.system⟩ := by
  have changed : settings.changesRecord = .ok settings.overrides :=
    changesRecord_eq_ok_iff.2 plain.changes_eq
  rw [view, plain.listing_eq, changed]
  show (settings.shown >>= _) = _
  cases settings.shown <;> rfl

/-- Changes to settings that there are leave plain settings plain. -/
theorem IsPlain.extended
    {given : List (Text × Value)}
    (known : ∀ name ∈ Record.names given, name ∈ Record.names defaults) :
    (settings.extended given).IsPlain where
  distinct := Record.nodup_merge plain.distinct given
  free := by
    intro name isKept member
    obtain old | new := Record.mem_names_merge member
    · exact plain.free name isKept old
    · exact (notMem_keptNames_of_known name (known name new)).1 isKept

/-- Plain settings can always be replaced in settings that there are. -/
theorem IsPlain.replaceGiven_eq
    {replacement : Replacement}
    (known : replacement.IsKnown) :
    settings.replaceGiven (.value replacement.value) replacement.single =
      .ok (settings.extended replacement.given) := by
  have allowed : settings.replacementFault? replacement.single = none := by
    have noReplace : Record.get? settings.overrides replaceMember = none :=
      plain.get?_eq_none (by decide)
    simp only [replacementFault?, noReplace, Option.map_eq_none_iff, List.find?_eq_none]
    intro field member
    have isGiven : field.1 ∈ Record.names replacement.given :=
      Record.mem_names_of_mem (List.mem_append_right _ member)
    simpa using (notMem_keptNames_of_known field.1 (known field.1 isGiven)).2
  have merged :
      Record.merge (Record.merge settings.overrides (replacement.newer.getD []))
          replacement.single =
        (settings.extended replacement.given).overrides :=
    (Record.merge_append _ _ _).symm
  have after := plain.extended known
  have made : ofRecord (settings.extended replacement.given).overrides =
      .ok (settings.extended replacement.given) :=
    ofRecord_of_free
      (fun name isFixed => after.free name (List.mem_append_left _ isFixed))
      (after.free membersMember (by decide))
  rw [replaceGiven, allowed, replacement.changes_value]
  show settings.replace (replacement.newer.getD []) replacement.single = _
  rw [replace, allowed, plain.changes_eq]
  show ofRecord (Record.merge (Record.merge settings.overrides (replacement.newer.getD []))
    replacement.single) = _
  rw [merged, made]

end Plain

/-- Whether replacements of settings can be made, and carry a record of changes forward.  This is
the record of the settings' own changes, unless one of these hides it. -/
structure Carries (start : Settings) (base : Record) : Prop where
  replaceable : replaceMember ∉ Record.names start.overrides
  carried : Record.ofValue start.changes = .ok base

/-- Plain settings carry their own changes. -/
theorem IsPlain.carries
    {settings : Settings}
    (plain : settings.IsPlain) :
    settings.Carries settings.overrides where
  replaceable := plain.free replaceMember (by decide)
  carried := by
    rw [plain.changes_eq]
    rfl

/-- Settings none of whose changes hides their record carry it as it is. -/
theorem Carries.eq_of_notMem
    {start : Settings}
    {base : Record}
    (carries : start.Carries base)
    (notHidden : changesMember ∉ Record.names start.overrides) :
    base = start.overrides := by
  have unhidden : start.changes = .record start.overrides :=
    changes_of_get?_eq_none (Record.get?_eq_none_iff.2 notHidden)
  have carried := carries.carried
  rw [unhidden] at carried
  cases carried
  rfl

/-- A replacement makes of settings what it makes of the record that they carry. -/
theorem Carries.replaceGiven_eq
    {start : Settings}
    {base : Record}
    (carries : start.Carries base)
    (plain : IsPlain ⟨base⟩)
    {replacement : Replacement}
    (known : replacement.IsKnown) :
    start.replaceGiven (.value replacement.value) replacement.single =
      .ok (extended ⟨base⟩ replacement.given) := by
  have here : Record.get? start.overrides replaceMember = none :=
    Record.get?_eq_none_iff.2 carries.replaceable
  have there : Record.get? base replaceMember = none := plain.get?_eq_none (by decide)
  rw [← plain.replaceGiven_eq known]
  simp only [replaceGiven, replace, replacementFault?, here, there, carries.carried,
    plain.carries.carried]

/-! ### Chains -/

/-- Settings after several replacements, one after the other. -/
def replaceAll (settings : Settings) : List Replacement → Except Fault Settings
  | [] => .ok settings
  | replacement :: rest => do
    let next ← settings.replaceGiven (.value replacement.value) replacement.single
    next.replaceAll rest

/-- A chain of replacements has the effect of all its changes in their order. -/
theorem IsPlain.replaceAll_eq
    {settings : Settings}
    (plain : settings.IsPlain)
    {replacements : List Replacement}
    (known : ∀ replacement ∈ replacements, replacement.IsKnown) :
    settings.replaceAll replacements =
      .ok (settings.extended (replacements.flatMap Replacement.given)) := by
  induction replacements generalizing settings with
  | nil => rfl
  | cons replacement rest inductionHypothesis =>
    have here := known replacement List.mem_cons_self
    have later : ∀ other ∈ rest, other.IsKnown :=
      fun other member => known other (List.mem_cons_of_mem replacement member)
    have merged :
        (settings.extended replacement.given).extended (rest.flatMap Replacement.given) =
          settings.extended (replacement.given ++ rest.flatMap Replacement.given) :=
      congrArg Settings.mk (Record.merge_append _ _ _).symm
    rw [replaceAll, plain.replaceGiven_eq here]
    show (settings.extended replacement.given).replaceAll rest = _
    rw [inductionHypothesis (plain.extended here) later, merged, List.flatMap_cons]

/-- A chain of replacements has the effect of all its changes on the record that the settings
carry. -/
theorem Carries.replaceAll_eq
    {start : Settings}
    {base : Record}
    (carries : start.Carries base)
    (plain : IsPlain ⟨base⟩)
    {replacements : List Replacement}
    (given : replacements ≠ [])
    (known : ∀ replacement ∈ replacements, replacement.IsKnown) :
    start.replaceAll replacements =
      .ok (extended ⟨base⟩ (replacements.flatMap Replacement.given)) := by
  obtain ⟨first, rest, rfl⟩ := List.exists_cons_of_ne_nil given
  have here := known first List.mem_cons_self
  rw [← plain.replaceAll_eq known, replaceAll, replaceAll, carries.replaceGiven_eq plain here,
    plain.replaceGiven_eq here]

/-- What there is to say about settings that come by a list of changes from others, which carry a
record of changes themselves: each setting has the value that was given last, else that of the
record, else its default; the changes are listed in the order in which they first came up; and one
replacement by all changes together makes the same settings. -/
structure KeepsLast
    (start : Settings)
    (base : Record)
    (given : List (Text × Value))
    (settings : Settings) :
    Prop where
  value :
    ∀ name,
      settings.get? name =
        ((Record.get? given.reverse name).or (Record.get? base name)).or
          (Record.get? defaults name)
  listed :
    ∃ listed, settings.listing = .ok listed ∧
      ∀ name, Record.get? listed name = settings.get? name
  changed :
    ∃ changed, settings.changes = .record changed ∧
      Record.names changed = (Record.names (base ++ given)).eraseDups ∧
      ∀ name, Record.get? changed name =
        (Record.get? given.reverse name).or (Record.get? base name)
  collapsed : start.replaceGiven (.value (.record (Record.ofPairs given))) [] = .ok settings

theorem Carries.keepsLast
    {start : Settings}
    {base : Record}
    (carries : start.Carries base)
    (plain : IsPlain ⟨base⟩)
    {given : List (Text × Value)}
    (known : ∀ name ∈ Record.names given, name ∈ Record.names defaults) :
    KeepsLast start base given (extended ⟨base⟩ given) where
  value := by
    intro name
    have merged := get?_of_nodup (plain.extended known).distinct name
    rw [← Record.get?_merge base given name]
    exact merged
  listed := ⟨_, (plain.extended known).listing_eq, fun name => rfl⟩
  changed :=
    ⟨_, (plain.extended known).changes_eq, Record.names_merge plain.distinct given,
      Record.get?_merge base given⟩
  collapsed := by
    have knownPairs : Replacement.IsKnown ⟨some (Record.ofPairs given), []⟩ := by
      intro name member
      have inPairs : name ∈ Record.names (Record.ofPairs given) := by
        simpa [Replacement.given] using member
      obtain impossible | isGiven := Record.mem_names_merge inPairs
      · cases impossible
      · exact known name isGiven
    have together :
        extended ⟨base⟩ (Replacement.given ⟨some (Record.ofPairs given), []⟩) =
          extended ⟨base⟩ given := by
      refine congrArg Settings.mk ?_
      show Record.merge base (Record.ofPairs given ++ []) = _
      rw [List.append_nil, Record.merge_ofPairs]
    exact (carries.replaceGiven_eq plain knownPairs).trans (congrArg Except.ok together)

end Settings

/-! ### Chains of requests -/

namespace Replacement

/-- The request to replace the settings of one name, or the standard ones, and to store what comes
of it under another name. -/
def request (replacement : Replacement) (source : Option Text) (target : Text) : Request :=
  .makeSettings (.replaced source (.value replacement.value) replacement.single) (some target)

/-- A chain of such requests, each of which starts from what the one before has stored. -/
def requests : Option Text → List (Text × Replacement) → List Request
  | _, [] => []
  | source, (target, replacement) :: rest =>
    replacement.request source target :: requests (some target) rest

end Replacement

namespace Session

/-- Replacing settings stores new ones under their name, or nothing, and changes no others. -/
theorem findOrStandard_replacement
    (session : Session)
    (replacement : Replacement)
    (source : Option Text)
    {target : Text}
    {name : Option Text}
    (other : ∀ given ∈ name, given ≠ target) :
    (session.perform (replacement.request source target)).2.store.findOrStandard name =
      session.store.findOrStandard name := by
  rw [Replacement.request, perform]
  split
  · cases name with
    | none => rfl
    | some given =>
      have different : (given == target) = false := by simpa using other given rfl
      simp only [withStored, Store.findOrStandard, Store.find, List.lookup_cons, different]
  · rfl

/-- Settings are replaced by what the replacement makes of the record that they carry, which is
shown and stored. -/
theorem perform_replacement
    {session : Session}
    {source : Option Text}
    {start : Settings}
    (found : session.store.findOrStandard source = .ok start)
    {base : Record}
    (carries : start.Carries base)
    (plain : Settings.IsPlain ⟨base⟩)
    {replacement : Replacement}
    (known : replacement.IsKnown)
    (target : Text) :
    session.perform (replacement.request source target) =
      (((Settings.extended ⟨base⟩ replacement.given).view.map Answer.settings),
        session.withStored (some target) (Settings.extended ⟨base⟩ replacement.given)) := by
  have built :
      (SettingsRecipe.replaced source (.value replacement.value) replacement.single).build
        session.store = .ok (Settings.extended ⟨base⟩ replacement.given) := by
    rw [SettingsRecipe.build, found]
    exact carries.replaceGiven_eq plain known
  rw [Replacement.request, perform, built]

/-- Along a chain of replacements all settings stay as they are that have none of its names. -/
theorem findOrStandard_run
    {session : Session}
    {source : Option Text}
    {chain : List (Text × Replacement)}
    {name : Option Text}
    (other : ∀ given ∈ name, given ∉ chain.map Prod.fst)
    {outcome : Except Fault Answer × Session}
    (reached : outcome ∈ session.run (Replacement.requests source chain)) :
    outcome.2.store.findOrStandard name = session.store.findOrStandard name := by
  induction chain generalizing session source with
  | nil => exact absurd reached List.not_mem_nil
  | cons link rest inductionHypothesis =>
    obtain ⟨target, replacement⟩ := link
    have notHere : ∀ given ∈ name, given ≠ target :=
      fun given isName same => other given isName (same ▸ List.mem_cons_self)
    have notLater : ∀ given ∈ name, given ∉ rest.map Prod.fst :=
      fun given isName member => other given isName (List.mem_cons_of_mem target member)
    have here := session.findOrStandard_replacement replacement source notHere
    rcases List.mem_cons.1 reached with rfl | later
    · exact here
    · exact (inductionHypothesis notLater later).trans here

/-- Each request of a chain shows and stores the settings of the chain so far, and these stay under
their name until it is given away again. -/
theorem run_replacements
    {session : Session}
    {source : Option Text}
    {start : Settings}
    (found : session.store.findOrStandard source = .ok start)
    {base : Record}
    (carries : start.Carries base)
    (plain : Settings.IsPlain ⟨base⟩)
    {before after : List (Text × Replacement)}
    {target : Text}
    {replacement : Replacement}
    (known : ∀ link ∈ before ++ (target, replacement) :: after, link.2.IsKnown) :
    ∃ settings,
      start.replaceAll (before.map Prod.snd ++ [replacement]) = .ok settings ∧
        (∃ outcome,
          (session.run (Replacement.requests source
            (before ++ (target, replacement) :: after)))[before.length]? = some outcome ∧
            outcome.1 = settings.view.map .settings) ∧
        (target ∉ after.map Prod.fst →
          ∀ outcome ∈ (session.run (Replacement.requests source
            (before ++ (target, replacement) :: after))).drop before.length,
            outcome.2.store.find target = .ok settings) := by
  induction before generalizing session source start base with
  | nil =>
    have here : replacement.IsKnown := known _ List.mem_cons_self
    have performed := perform_replacement found carries plain here target
    have stored :
        (session.withStored (some target)
            (Settings.extended ⟨base⟩ replacement.given)).store.find target =
          .ok (Settings.extended ⟨base⟩ replacement.given) := by
      simp [withStored, Store.find]
    have made : start.replaceAll [replacement] =
        .ok (Settings.extended ⟨base⟩ replacement.given) := by
      rw [Settings.replaceAll, carries.replaceGiven_eq plain here]
      rfl
    refine ⟨Settings.extended ⟨base⟩ replacement.given, made,
      ⟨_, rfl, congrArg Prod.fst performed⟩, ?_⟩
    intro lastUse outcome reached
    rcases List.mem_cons.1 reached with rfl | later
    · rw [performed]
      exact stored
    · have lastUseOf : ∀ given ∈ some target, given ∉ after.map Prod.fst :=
        fun given isTarget => Option.some.inj isTarget ▸ lastUse
      have kept := findOrStandard_run lastUseOf later
      rw [performed] at kept
      exact kept.trans stored
  | cons link rest inductionHypothesis =>
    obtain ⟨next, first⟩ := link
    have here : first.IsKnown := known _ List.mem_cons_self
    have performed := perform_replacement found carries plain here next
    have stored :
        (session.withStored (some next)
            (Settings.extended ⟨base⟩ first.given)).store.findOrStandard (some next) =
          .ok (Settings.extended ⟨base⟩ first.given) := by
      simp [withStored, Store.findOrStandard, Store.find]
    have unrolled :
        session.run (Replacement.requests source
            ((next, first) :: rest ++ (target, replacement) :: after)) =
          session.perform (first.request source next) ::
            (session.perform (first.request source next)).2.run
              (Replacement.requests (some next) (rest ++ (target, replacement) :: after)) :=
      rfl
    have plainNext := plain.extended here
    obtain ⟨settings, made, shown, kept⟩ :=
      inductionHypothesis stored plainNext.carries plainNext
        (fun link member => known link (List.mem_cons_of_mem _ member))
    rw [unrolled, performed]
    refine ⟨settings, ?_, shown, kept⟩
    show start.replaceAll (first :: (rest.map Prod.snd ++ [replacement])) = .ok settings
    rw [Settings.replaceAll, carries.replaceGiven_eq plain here]
    exact made

/-- In a chain of replacements, of whatever values, each link makes settings in which every setting
has the value that was given last, in that link or before it, or else in the record that the first
settings carry.  This is the record of their own changes, unless one of these hides it.  The
settings are shown in the answer, if their numbers can be written, and stay under their name for
the rest of the chain, unless the name is given away again; and no other settings change, neither
stored ones nor the standard ones. -/
theorem replacements_keepLast
    {session : Session}
    {source : Option Text}
    {start : Settings}
    (found : session.store.findOrStandard source = .ok start)
    {base : Record}
    (carries : start.Carries base)
    (plain : Settings.IsPlain ⟨base⟩)
    {chain : List (Text × Replacement)}
    (known : ∀ link ∈ chain, link.2.IsKnown) :
    (Settings.changesMember ∉ Record.names start.overrides → base = start.overrides) ∧
    (∀ before target replacement after, chain = before ++ (target, replacement) :: after →
      ∃ settings,
        start.replaceAll (before.map Prod.snd ++ [replacement]) = .ok settings ∧
          Settings.KeepsLast start base
            (before.flatMap (fun link => link.2.given) ++ replacement.given) settings ∧
          (∃ outcome,
            (session.run (Replacement.requests source chain))[before.length]? = some outcome ∧
              outcome.1 = settings.shown.map fun text =>
                .settings ⟨settings.values, settings.overrides, text, settings.system⟩) ∧
          (target ∉ after.map Prod.fst →
            ∀ outcome ∈ (session.run (Replacement.requests source chain)).drop before.length,
              outcome.2.store.find target = .ok settings)) ∧
      ∀ outcome ∈ session.run (Replacement.requests source chain), ∀ name : Option Text,
        (∀ given ∈ name, given ∉ chain.map Prod.fst) →
          outcome.2.store.findOrStandard name = session.store.findOrStandard name := by
  refine ⟨carries.eq_of_notMem, ?_, fun outcome reached name other =>
    findOrStandard_run other reached⟩
  rintro before target replacement after rfl
  obtain ⟨settings, made, ⟨outcome, isOutcome, shown⟩, kept⟩ :=
    run_replacements found carries plain known
  have knownSoFar : ∀ other ∈ before.map Prod.snd ++ [replacement], other.IsKnown := by
    intro other member
    rcases List.mem_append.1 member with earlier | last
    · obtain ⟨link, isLink, rfl⟩ := List.mem_map.1 earlier
      exact known link (List.mem_append_left _ isLink)
    · rw [List.mem_singleton.1 last]
      exact known _ (List.mem_append_right _ List.mem_cons_self)
  have given :
      (before.map Prod.snd ++ [replacement]).flatMap Replacement.given =
        before.flatMap (fun link => link.2.given) ++ replacement.given := by
    rw [List.flatMap_append, List.flatMap_map, List.flatMap_singleton]
  have knownNames :
      ∀ name ∈ Record.names (before.flatMap (fun link => link.2.given) ++ replacement.given),
        name ∈ Record.names Settings.defaults := by
    intro name member
    rw [← given] at member
    obtain ⟨field, isField, rfl⟩ := List.mem_map.1 member
    obtain ⟨other, isOther, inOther⟩ := List.mem_flatMap.1 isField
    exact knownSoFar other isOther field.1 (Record.mem_names_of_mem inOther)
  have isExtended := made.symm.trans (carries.replaceAll_eq plain (by simp) knownSoFar)
  rw [given] at isExtended
  cases isExtended
  have plainAfter := plain.extended knownNames
  refine ⟨_, made, carries.keepsLast plain knownNames, ⟨outcome, isOutcome, ?_⟩, kept⟩
  rw [shown, plainAfter.view_eq]
  cases (Settings.extended ⟨base⟩ _).shown <;> rfl

/-- A calendar system that there is not is given with a record, and then one that there is. -/
theorem replacements_keepLast_calendar :
    let session : Session := .start ⟨739195, by decide, by decide⟩
    let numbered : Replacement :=
      ⟨some [(Settings.calendarName, .int 3), (Settings.dialectName, .text "english".toList)],
        [(Settings.folderName .daily, .text ['d'])]⟩
    let gregorian : Replacement :=
      ⟨none, [(Settings.calendarName, .text "gregorian".toList)]⟩
    let chain : List (Text × Replacement) := [(['a'], numbered), (['b'], gregorian)]
    session.store.findOrStandard none = .ok .standard ∧
      Settings.standard.Carries Settings.standard.overrides ∧
      Settings.IsPlain ⟨Settings.standard.overrides⟩ ∧
      (∀ link ∈ chain, link.2.IsKnown) ∧
      ∃ settings,
        Settings.KeepsLast .standard [] (numbered.given ++ gregorian.given) settings ∧
          settings.get? Settings.calendarName = some (.text "gregorian".toList) ∧
          ∀ outcome ∈ (session.run (Replacement.requests none chain)).drop 1,
            outcome.2.store.find ['b'] = .ok settings := by
  intro session numbered gregorian chain
  have found : session.store.findOrStandard none = .ok .standard := rfl
  have plain : Settings.standard.IsPlain := .of_known List.nodup_nil (by decide)
  have knownNumbered : ∀ name ∈ Record.names numbered.given,
      name ∈ Record.names Settings.defaults := by decide
  have knownGregorian : ∀ name ∈ Record.names gregorian.given,
      name ∈ Record.names Settings.defaults := by decide
  have known : ∀ link ∈ chain, link.2.IsKnown := by
    intro link member
    rcases List.mem_cons.1 member with rfl | last
    · exact knownNumbered
    · rw [List.mem_singleton.1 last]
      exact knownGregorian
  obtain ⟨settings, -, keeps, -, stays⟩ :=
    (replacements_keepLast found plain.carries plain known).2.1
      [(['a'], numbered)] ['b'] gregorian [] rfl
  exact ⟨found, plain.carries, plain, known, settings, keeps, keeps.value Settings.calendarName,
    stays List.not_mem_nil⟩

/-- A change under the name of the record of changes hides that record, so that the calendar system,
which is never given again, falls back to its default. -/
theorem replacement_hiddenRecord :
    let start : Settings :=
      ⟨[(Settings.calendarName, .text "gregorian".toList), (Settings.changesMember, .record [])]⟩
    let english : Replacement := ⟨some [(Settings.dialectName, .text "english".toList)], []⟩
    Settings.ofRecord start.overrides = .ok start ∧ english.IsKnown ∧
      start.get? Settings.calendarName = some (.text "gregorian".toList) ∧
      ∃ settings,
        start.replaceGiven (.value english.value) english.single = .ok settings ∧
          settings.get? Settings.calendarName = some (.text "solar".toList) := by
  intro start english
  have known : ∀ name ∈ Record.names english.given, name ∈ Record.names Settings.defaults := by
    decide
  exact ⟨rfl, known, rfl, _, rfl, rfl⟩

end Session

end Daybook
