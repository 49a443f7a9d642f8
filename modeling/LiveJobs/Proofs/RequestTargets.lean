import LiveJobs.Proofs.TargetNames

/-!
# Targets of requests

Which job a request is about, seen from the service. The name of a job is written into the place of
the job as it is. It comes out as one segment that says the same if nothing in it has a meaning in
an address; any other name leads to a different place, which may be the place of another job.
-/

namespace LiveJobs.Http

open LiveJobs.Text Address

/-- The names of the place of a job. -/
def jobNames (job : JobId) : List (List UInt8) := [encodeUtf8 "jobs", encodeUtf8 job.text]

/-- The names of the place of a cancellation. -/
def cancelNames (job : JobId) : List (List UInt8) := jobNames job ++ [encodeUtf8 "cancel"]

theorem nameOf_jobs : nameOf "jobs".toList = encodeUtf8 "jobs" := nameOf_word "jobs" (by decide)

theorem nameOf_cancel : nameOf "cancel".toList = encodeUtf8 "cancel" :=
  nameOf_word "cancel" (by decide)

/-! ## Places as they are written -/

/-- Whether the name of a job is one segment of the place that it is written into. -/
structure IsWrittenWhole (job : JobId) : Prop where
  slashless : '/' ∉ job.text.toList
  path : IsPath job.text.toList
  unescaped : ¬HasEscape (encodeUtf8 job.text)

theorem toList_jobPath (job : JobId) :
    (jobPath job).toList = "/jobs".toList ++ '/' :: job.text.toList := by
  rw [jobPath, String.toList_append]
  rfl

theorem toList_cancelPath (job : JobId) :
    (cancelPath job).toList = (jobPath job).toList ++ '/' :: "cancel".toList := by
  rw [cancelPath, String.toList_append]
  rfl

theorem names_jobPath (job : JobId) :
    names (jobPath job).toList = [[], encodeUtf8 "jobs"] ++ names job.text.toList := by
  have front : names "/jobs".toList = [[], encodeUtf8 "jobs"] := by
    change names ([] ++ '/' :: "jobs".toList) = _
    rw [names_append, names_nil, names_of_slashless (by decide), nameOf_jobs]
    rfl
  rw [toList_jobPath, names_append, front]

theorem names_cancelPath (job : JobId) :
    names (cancelPath job).toList = names (jobPath job).toList ++ [encodeUtf8 "cancel"] := by
  have word : names "cancel".toList = [encodeUtf8 "cancel"] := by
    rw [names_of_slashless (by decide), nameOf_cancel]
  rw [toList_cancelPath, names_append, word]

theorem isPath_jobPath_iff (job : JobId) :
    IsPath (jobPath job).toList ↔ IsPath job.text.toList := by
  have front : IsPath "/jobs".toList := by decide
  rw [toList_jobPath, isPath_append, and_iff_right front]

theorem isPath_cancelPath_iff (job : JobId) :
    IsPath (cancelPath job).toList ↔ IsPath job.text.toList := by
  have rest : IsPath "cancel".toList := by decide
  rw [toList_cancelPath, isPath_append, and_iff_left rest, isPath_jobPath_iff]

theorem isWrittenWhole_iff (job : JobId) :
    IsPath job.text.toList ∧ names job.text.toList = [encodeUtf8 job.text] ↔
      IsWrittenWhole job := by
  rw [names_eq_singleton_iff]
  exact ⟨fun ⟨path, slashless, unescaped⟩ => ⟨slashless, path, unescaped⟩,
    fun whole => ⟨whole.path, whole.slashless, whole.unescaped⟩⟩

/-- The place of a job leads to it exactly if its name is written whole. -/
theorem leadsTo_jobPath_iff (job : JobId) :
    LeadsTo (jobPath job) ([] :: jobNames job) ↔ IsWrittenWhole job := by
  rw [leadsTo_iff, isPath_jobPath_iff, names_jobPath, ← isWrittenWhole_iff]
  exact and_congr_right fun _ => List.append_right_inj [[], encodeUtf8 "jobs"]

/-- The same holds of the place of its cancellation. -/
theorem leadsTo_cancelPath_iff (job : JobId) :
    LeadsTo (cancelPath job) ([] :: cancelNames job) ↔ IsWrittenWhole job := by
  rw [← leadsTo_jobPath_iff, leadsTo_iff, leadsTo_iff, isPath_cancelPath_iff, isPath_jobPath_iff,
    names_cancelPath, cancelNames, ← List.cons_append, List.append_left_inj]

/-! ## Names that stand for themselves -/

/-- Whether the name of a job stands for itself inside an address. -/
structure IsSentWhole (job : JobId) : Prop where
  slashless : ∀ c ∈ job.text.toList, isSlash c = false
  path : IsPath job.text.toList
  visible : ∀ c ∈ job.text.toList, c ∉ invisible
  undotted : job.text ≠ "." ∧ job.text ≠ ".."
  unescaped : ¬HasEscape (encodeUtf8 job.text)

/-- Whether an address ends where the name at its end does. -/
def EndsVisibly (job : JobId) : Prop := job.text.toList.getLast?.all fun c => !isMargin c

theorem writeDots_of_unescaped {segment : List Char}
    (unescaped : ¬HasEscape (encodeUtf8 (String.ofList segment))) :
    writeDots segment = segment := by
  rw [encodeUtf8_eq_flatMap, String.toList_ofList] at unescaped
  induction segment using writeDots.induct with
  | case1 rest ih =>
      exact absurd ⟨_, List.suffix_rfl, .intro _ (by decide) (by decide)⟩ unescaped
  | case2 rest ih =>
      exact absurd ⟨_, List.suffix_rfl, .intro _ (by decide) (by decide)⟩ unescaped
  | case3 c rest lower upper ih =>
      rw [writeDots, ih]
      · rintro ⟨behind, suffix, begins⟩
        refine unescaped ⟨behind, suffix.trans ?_, begins⟩
        rw [List.flatMap_cons]
        exact List.suffix_append _ _
      · exact lower
      · exact upper
  | case4 => rfl

theorem isDotted_iff {text : String} (unescaped : ¬HasEscape (encodeUtf8 text)) :
    isDotted text.toList = true ↔ text = "." ∨ text = ".." := by
  have plain : writeDots text.toList = text.toList :=
    writeDots_of_unescaped (by rwa [String.ofList_toList])
  rw [isDotted, isOuter, isSelf, plain, Bool.or_eq_true, decide_eq_true_iff, decide_eq_true_iff,
    or_comm, ← String.toList_inj, ← String.toList_inj]
  rfl

theorem rdropWhile_eq_self_iff_all {text : List Char} :
    text.rdropWhile isMargin = text ↔ text.getLast?.all fun c => !isMargin c := by
  rw [List.rdropWhile_eq_self_iff]
  rcases List.eq_nil_or_concat text with rfl | ⟨front, last, rfl⟩
  · simp
  · simp

/-- A segment of what is left of a part of a name says the name only if all of the name is left. -/
theorem isSentWhole_of_nameOf {job : JobId} {part segment : List Char}
    (sub : part.Sublist job.text.toList)
    (left : segment = [] ∨ segment ∈ splitPath (pathPart (visible part)) ∧ isDotted segment = false)
    (same : nameOf segment = encodeUtf8 job.text) : IsSentWhole job ∧ part = job.text.toList := by
  have inside : segment.Sublist (pathPart (visible part)) := by
    rcases left with rfl | ⟨member, -⟩
    · exact List.nil_sublist _
    · exact (segment_spec member).1
  have inPath : (pathPart (visible part)).Sublist (visible part) := List.takeWhile_sublist _
  have seen : (visible part).Sublist part := List.filter_sublist
  obtain ⟨rfl, unescaped⟩ :=
    whole_of_nameOf_eq (inside.trans (inPath.trans (seen.trans sub))) same
  -- Nothing was lost at any of the steps.
  have partWhole : part = job.text.toList := sub.antisymm (inside.trans (inPath.trans seen))
  subst partWhole
  have visibleWhole := seen.antisymm (inside.trans inPath)
  rw [visibleWhole] at inside inPath left
  have pathWhole := inPath.antisymm inside
  refine ⟨⟨?slashless, pathWhole ▸ isPath_pathPart _, visible_eq_self_iff.1 visibleWhole,
    not_or.1 ?undotted, unescaped⟩, rfl⟩
  case slashless =>
    rcases left with empty | ⟨member, -⟩
    · simp [empty]
    · exact (segment_spec member).2
  case undotted =>
    rw [← isDotted_iff unescaped]
    rcases left with empty | ⟨-, undotted⟩
    · rw [empty]
      decide
    · exact ne_true_of_eq_false undotted

theorem IsSentWhole.isDotted_eq_false {job : JobId} (whole : IsSentWhole job) :
    isDotted job.text.toList = false :=
  eq_false_of_ne_true fun dotted =>
    not_or.2 whole.undotted ((isDotted_iff whole.unescaped).1 dotted)

theorem IsSentWhole.nameOf_eq {job : JobId} (whole : IsSentWhole job) :
    nameOf job.text.toList = encodeUtf8 job.text :=
  nameOf_of_unescaped whole.unescaped

/-! ## Places as they are sent -/

/-- The place of a cancellation below the root. -/
def cancelRest (job : JobId) : List Char :=
  "jobs".toList ++ '/' :: (job.text.toList ++ '/' :: "cancel".toList)

theorem toList_cancelPath_eq_cons (job : JobId) :
    (cancelPath job).toList = '/' :: cancelRest job := by
  rw [toList_cancelPath, toList_jobPath, List.append_assoc]
  rfl

theorem isPath_jobs : IsPath "jobs".toList := by decide

theorem closing_jobs (rest : List Char) :
    closing ("jobs".toList ++ '/' :: rest) = "jobs".toList ++ '/' :: closing rest := by
  rw [closing_append]
  rfl

theorem segmentsBelow_jobs (rest : List Char) :
    segmentsBelow ("jobs".toList ++ '/' :: rest) = "jobs".toList :: segmentsBelow rest := by
  rw [segmentsBelow, closing_jobs, pathPart_append isPath_jobs, splitPath_append]
  rfl

section Sent

variable {job : JobId} {levels : List (List Char)}

theorem closing_of_whole (whole : IsSentWhole job) (ends : EndsVisibly job) :
    closing job.text.toList = job.text.toList := by
  rw [closing, rdropWhile_eq_self_iff_all.2 ends, visible_eq_self_iff.2 whole.visible]

/-- A name that is sent whole is put on top of the levels as it is. -/
theorem normalize_job (whole : IsSentWhole job) (ends : EndsVisibly job) :
    normalize levels (segmentsBelow ("jobs".toList ++ '/' :: job.text.toList)) =
      levels.reverse ++ ["jobs".toList, job.text.toList] := by
  rw [segmentsBelow_jobs, segmentsBelow, closing_of_whole whole ends,
    pathPart_of_isPath whole.path, splitPath_of_free whole.slashless, normalize_of_undotted]
  intro segment member
  rcases List.mem_pair.1 member with rfl | rfl
  · decide
  · exact whole.isDotted_eq_false

/-- The last of the segments says the name of the job only if the name is sent whole. -/
theorem whole_of_normalize_job
    (named : (normalize levels (segmentsBelow ("jobs".toList ++ '/' :: job.text.toList))).map
      nameOf = levels.reverse.map nameOf ++ jobNames job) : IsSentWhole job ∧ EndsVisibly job := by
  have grouped : jobNames job = [encodeUtf8 "jobs"] ++ [encodeUtf8 job.text] := rfl
  rw [segmentsBelow_jobs, grouped, ← List.append_assoc] at named
  obtain ⟨last, same, ends⟩ := exists_last_of_names (List.cons_ne_nil _ _) named
  have left : last = [] ∨ last ∈ segmentsBelow job.text.toList ∧ isDotted last = false := by
    refine ends.imp_right fun ⟨final, undotted⟩ => ⟨?_, undotted⟩
    rw [List.getLast?_cons_of_ne_nil (segmentsBelow_ne_nil _)] at final
    exact List.mem_of_getLast? final
  obtain ⟨whole, kept⟩ := isSentWhole_of_nameOf (List.rdropWhile_prefix _ _).sublist left same
  exact ⟨whole, rdropWhile_eq_self_iff_all.1 kept⟩

theorem closing_cancel (text : List Char) :
    closing (text ++ '/' :: "cancel".toList) = visible text ++ '/' :: "cancel".toList := by
  rw [closing_append]
  rfl

theorem segmentsBelow_cancel_of_isPath {text : List Char} (path : IsPath (visible text)) :
    segmentsBelow (text ++ '/' :: "cancel".toList) =
      splitPath (visible text) ++ ["cancel".toList] := by
  rw [segmentsBelow, closing_cancel, pathPart_append path, splitPath_append]
  rfl

/-- The segments that are not the last one come from the text in front of the last word. -/
theorem mem_dropLast_segmentsBelow_cancel {text segment : List Char}
    (member : segment ∈ (segmentsBelow (text ++ '/' :: "cancel".toList)).dropLast) :
    segment ∈ splitPath (pathPart (visible text)) := by
  by_cases path : IsPath (visible text)
  · rw [segmentsBelow_cancel_of_isPath path, List.dropLast_concat] at member
    rwa [pathPart_of_isPath path]
  · rw [segmentsBelow, closing_cancel, pathPart_append_of_not path] at member
    exact List.dropLast_subset _ member

theorem normalize_cancel (whole : IsSentWhole job) :
    normalize levels (segmentsBelow (cancelRest job)) =
      levels.reverse ++ ["jobs".toList, job.text.toList, "cancel".toList] := by
  have seen := visible_eq_self_iff.2 whole.visible
  rw [cancelRest, segmentsBelow_jobs, segmentsBelow_cancel_of_isPath (seen.symm ▸ whole.path), seen,
    splitPath_of_free whole.slashless, normalize_of_undotted]
  · rfl
  · intro segment member
    simp only [List.mem_cons, List.cons_append, List.nil_append, List.not_mem_nil,
      or_false] at member
    rcases member with rfl | rfl | rfl
    · decide
    · exact whole.isDotted_eq_false
    · decide

/-- The segment before the last says the name of the job only if the name is sent whole. -/
theorem whole_of_normalize_cancel
    (named : (normalize levels (segmentsBelow (cancelRest job))).map nameOf =
      levels.reverse.map nameOf ++ cancelNames job) : IsSentWhole job := by
  rw [cancelRest, segmentsBelow_jobs] at named
  obtain ⟨segment, among, same, undotted⟩ := exists_middle_of_names (List.cons_ne_nil _ _) named
  rw [List.dropLast_cons_of_ne_nil (segmentsBelow_ne_nil _)] at among
  have member := mem_dropLast_segmentsBelow_cancel among
  exact (isSentWhole_of_nameOf (List.Sublist.refl _) (.inr ⟨member, undotted⟩) same).1

end Sent

section Based

variable {settings : Settings} {levels : List (List Char)} {job : JobId} {sent : Request}

/-- The request for a job leads to it exactly if its name is sent whole. -/
theorem leadsTo_get_iff (based : IsBasedOn settings levels)
    (made : requestOf? settings (.get job) = some sent) :
    LeadsTo sent.target (([] :: levels.reverse.map nameOf) ++ jobNames job) ↔
      IsSentWhole job ∧ EndsVisibly job := by
  have placed : (jobPath job).toList = '/' :: ("jobs".toList ++ '/' :: job.text.toList) :=
    toList_jobPath job
  constructor
  · rintro ⟨-, named⟩
    rw [based.names placed made, List.cons_append, List.cons_inj_right] at named
    exact whole_of_normalize_job named
  · rintro ⟨whole, ends⟩
    refine ⟨based.path placed made ?_, ?_⟩
    · rw [closing_jobs, closing_of_whole whole ends, isPath_append]
      exact ⟨isPath_jobs, whole.path⟩
    · rw [based.names placed made, normalize_job whole ends, List.map_append]
      simp only [List.map_cons, List.map_nil, nameOf_jobs, whole.nameOf_eq]
      rfl

/-- The request to cancel a job leads to its cancellation exactly if its name is sent whole. -/
theorem leadsTo_cancel_iff {reason : Option String} (based : IsBasedOn settings levels)
    (made : requestOf? settings (.cancel job reason) = some sent) :
    LeadsTo sent.target (([] :: levels.reverse.map nameOf) ++ cancelNames job) ↔
      IsSentWhole job := by
  have placed := toList_cancelPath_eq_cons job
  constructor
  · rintro ⟨-, named⟩
    rw [based.names placed made, List.cons_append, List.cons_inj_right] at named
    exact whole_of_normalize_cancel named
  · intro whole
    have rest : IsPath "cancel".toList := by decide
    refine ⟨based.path placed made ?_, ?_⟩
    · rw [cancelRest, closing_jobs, closing_cancel, visible_eq_self_iff.2 whole.visible,
        isPath_append, isPath_append]
      exact ⟨isPath_jobs, whole.path, rest⟩
    · rw [based.names placed made, normalize_cancel whole, List.map_append]
      simp only [List.map_cons, List.map_nil, nameOf_jobs, nameOf_cancel, whole.nameOf_eq]
      rfl

theorem namesAlong_stream {channel : Channel} {token : Option EventId}
    (based : IsBasedOn settings levels)
    (made : streamRequest? settings channel token = some sent) :
    namesAlong sent.target = ([] :: levels.reverse.map nameOf) ++
      [encodeUtf8 "streams", encodeUtf8 channel.path] := by
  have placed : (channelPath channel).toList =
      '/' :: ("streams".toList ++ '/' :: channel.path.toList) := by
    rw [channelPath, String.toList_append]
    rfl
  have segments : segmentsBelow ("streams".toList ++ '/' :: channel.path.toList) =
      ["streams".toList, channel.path.toList] := by
    cases channel <;> decide
  have undotted : ∀ segment ∈ ["streams".toList, channel.path.toList],
      isDotted segment = false := by
    cases channel <;> decide
  have named : nameOf channel.path.toList = encodeUtf8 channel.path :=
    nameOf_word _ (by cases channel <;> decide)
  rw [based.names placed made, segments, normalize_of_undotted undotted, List.map_append]
  simp only [List.map_cons, List.map_nil, nameOf_word "streams" (by decide), named]
  rfl

theorem namesAlong_list {query : Query} (based : IsBasedOn settings levels)
    (made : requestOf? settings (.list query) = some sent) :
    namesAlong sent.target = ([] :: levels.reverse.map nameOf) ++ [encodeUtf8 "jobs"] := by
  have placed : "/jobs".toList = '/' :: "jobs".toList := rfl
  have segments : segmentsBelow "jobs".toList = ["jobs".toList] := by decide
  have undotted : ∀ segment ∈ ["jobs".toList], isDotted segment = false := by decide
  rw [based.names placed made, segments, normalize_of_undotted undotted, List.map_append,
    List.map_singleton, nameOf_jobs]
  rfl

end Based

/-! ## Calls -/

/-- The names of the place of a call. -/
def placeNames : Call → List (List UInt8)
  | .list _ => [encodeUtf8 "jobs"]
  | .get job => jobNames job
  | .cancel job _ => cancelNames job

/-- Whether the name in a call, if there is one, is sent whole. -/
def IsWhole : Call → Prop
  | .list _ => True
  | .get job => IsSentWhole job ∧ EndsVisibly job
  | .cancel job _ => IsSentWhole job

/-- Whether two calls ask the same of the same job. -/
def SamePlace : Call → Call → Prop
  | .list _, .list _ => True
  | .get job, .get other => job = other
  | .cancel job _, .cancel other _ => job = other
  | _, _ => False

theorem encodeUtf8_injective {text other : String} (same : encodeUtf8 text = encodeUtf8 other) :
    text = other := by
  rw [encodeUtf8_eq_bytes, encodeUtf8_eq_bytes] at same
  rcases lt_trichotomy text other with less | equal | more
  · exact absurd (bytes_lt_iff.2 less) (same ▸ List.lt_irrefl _)
  · exact equal
  · exact absurd (bytes_lt_iff.2 more) (same ▸ List.lt_irrefl _)

theorem samePlace_of_placeNames {call other : Call} (same : placeNames call = placeNames other) :
    SamePlace call other := by
  have named {first second : JobId} (same : jobNames first = jobNames second) : first = second := by
    have texts := encodeUtf8_injective (List.cons.inj (List.cons.inj same).2).1
    cases first
    exact congrArg JobId.mk texts
  have lengths := congrArg List.length same
  cases call <;> cases other
  case list.list => trivial
  case get.get => exact named same
  case cancel.cancel => exact named (List.append_inj_left' same rfl)
  all_goals simp [placeNames, jobNames, cancelNames] at lengths

theorem placeNames_ne_stream (call : Call) (channel : Channel) :
    placeNames call ≠ [encodeUtf8 "streams", encodeUtf8 channel.path] := by
  intro same
  have words : encodeUtf8 "jobs" = encodeUtf8 "streams" := by
    cases call <;> exact (List.cons.inj same).1
  exact absurd (encodeUtf8_injective words) (by decide)

variable {settings : Settings} {levels : List (List Char)}

theorem namesAlong_of_isWhole {call : Call} {sent : Request} (based : IsBasedOn settings levels)
    (whole : IsWhole call) (made : requestOf? settings call = some sent) :
    namesAlong sent.target = ([] :: levels.reverse.map nameOf) ++ placeNames call := by
  cases call with
  | list query => exact namesAlong_list based made
  | get job => exact ((leadsTo_get_iff based made).2 whole).2
  | cancel job reason => exact ((leadsTo_cancel_iff based made).2 whole).2

/-- The place that is written for a job leads to the job exactly if its name has no slash, no
question mark, no hash and no escape. A service that can be asked for its root can be asked for
every job, and asked to cancel it. The target that is sent leads to the job below the root exactly
if its name has none of these, no backslash, tab or line break, is no dotted segment, and, at the
end of an address, does not end in a space or a control character. Among such names no two are sent
to the same place, and none to another place of the service. -/
theorem requests_lead_to_named_jobs (settings : Settings) :
    (∀ job, (LeadsTo (jobPath job) ([] :: jobNames job) ↔ IsWrittenWhole job) ∧
      (LeadsTo (cancelPath job) ([] :: cancelNames job) ↔ IsWrittenWhole job)) ∧
    ∀ root, IsPath settings.baseUrl.toList →
      requestTo? settings "GET" "/" [] [] "" = some root →
      (∀ job, ∃ sent, requestOf? settings (.get job) = some sent ∧
        (LeadsTo sent.target ((namesAlong root.target).dropLast ++ jobNames job) ↔
          IsSentWhole job ∧ EndsVisibly job)) ∧
      (∀ job reason, ∃ sent, requestOf? settings (.cancel job reason) = some sent ∧
        (LeadsTo sent.target ((namesAlong root.target).dropLast ++ cancelNames job) ↔
          IsSentWhole job)) ∧
      ∀ call sent, IsWhole call → requestOf? settings call = some sent →
        (∀ other sentToo, IsWhole other → requestOf? settings other = some sentToo →
          sent.target = sentToo.target → SamePlace call other) ∧
        ∀ channel token opened, streamRequest? settings channel token = some opened →
          sent.target ≠ opened.target := by
  refine ⟨fun job => ⟨leadsTo_jobPath_iff job, leadsTo_cancelPath_iff job⟩, ?_⟩
  intro root path made
  obtain ⟨levels, based⟩ := exists_isBasedOn path made
  rw [based.names_root made, List.dropLast_concat]
  refine ⟨?get, ?cancel, ?apart⟩
  case get =>
    intro job
    obtain ⟨sent, made⟩ : ∃ sent, requestOf? settings (.get job) = some sent :=
      based.answers (toList_jobPath job) rfl
    exact ⟨sent, made, leadsTo_get_iff based made⟩
  case cancel =>
    intro job reason
    obtain ⟨sent, made⟩ : ∃ sent, requestOf? settings (.cancel job reason) = some sent :=
      based.answers (toList_cancelPath_eq_cons job) (by decide)
    exact ⟨sent, made, leadsTo_cancel_iff based made⟩
  case apart =>
    intro call sent whole made
    have named := namesAlong_of_isWhole based whole made
    constructor
    · intro other sentToo wholeToo madeToo same
      have namedToo := namesAlong_of_isWhole based wholeToo madeToo
      rw [← same, named, List.append_right_inj] at namedToo
      exact samePlace_of_placeNames namedToo
    · intro channel token opened madeToo same
      have namedToo := namesAlong_stream based madeToo
      rw [← same, named, List.append_right_inj] at namedToo
      exact placeNames_ne_stream call channel namedToo

/-- A service with a path of its own. -/
def localService : Settings := .standard "http://localhost:8080/api" ⟨List.replicate 32 '0'⟩

theorem spacedName_leads_to_its_job :
    ∃ sent, requestOf? localService (.get ⟨"über job"⟩) = some sent ∧
      sent.target = "/api/jobs/%C3%BCber%20job" ∧
      LeadsTo sent.target
        ([[], encodeUtf8 "api"] ++ [encodeUtf8 "jobs", encodeUtf8 "über job"]) := by
  have root : requestTo? localService "GET" "/" [] [] "" =
      some ⟨"GET", "/api/", commonHeaders localService, ""⟩ := by decide +kernel
  have base : (namesAlong "/api/").dropLast = [[], encodeUtf8 "api"] := by decide +kernel
  have whole : IsSentWhole ⟨"über job"⟩ :=
    ⟨by simp [isSlash], by decide, by simp [invisible], by decide,
      not_hasEscape_of_not_mem (by decide)⟩
  have ends : EndsVisibly ⟨"über job"⟩ := by rw [EndsVisibly]; decide
  obtain ⟨get, -, -⟩ := (requests_lead_to_named_jobs localService).2 _ (by decide) root
  obtain ⟨sent, made, leads⟩ := get ⟨"über job"⟩
  have target : (requestOf? localService (.get ⟨"über job"⟩)).map Request.target =
      some "/api/jobs/%C3%BCber%20job" := by decide +kernel
  rw [made] at target
  rw [base] at leads
  exact ⟨sent, made, Option.some.inj target, leads.2 ⟨whole, ends⟩⟩

/-- What is written behind a hash is not sent. The request for one job then asks for another, and
the request to cancel one job cancels another. -/
theorem hashedName_leads_to_other_job :
    JobId.read "job-1#old" = .ok ⟨"job-1#old"⟩ ∧
    JobId.read "job-1/cancel#old" = .ok ⟨"job-1/cancel#old"⟩ ∧
    ¬LeadsTo (jobPath ⟨"job-1#old"⟩) ([] :: jobNames ⟨"job-1#old"⟩) ∧
    (∃ sent, requestOf? localService (.get ⟨"job-1"⟩) = some sent ∧
      requestOf? localService (.get ⟨"job-1#old"⟩) = some sent) ∧
    ∃ sent, requestOf? localService (.cancel ⟨"job-1"⟩ none) = some sent ∧
      requestOf? localService (.cancel ⟨"job-1/cancel#old"⟩ none) = some sent := by
  refine ⟨rfl, rfl, fun leads => ?_, ⟨_, rfl, by decide +kernel⟩, ⟨_, rfl, by decide +kernel⟩⟩
  exact absurd ((leadsTo_jobPath_iff _).1 leads).path (by decide)

end LiveJobs.Http
