import SheepContabil.Proof.Sc06Answers

/-!
# SC-06: the consolidated result

`format_answers` walks the schema once more over the stored answers and lists each of them in the
order of the schema. The document then groups them by the title of the section, which the schema
does not keep unique.

* `Listed`: every stored answer once, in its section, in the order of the schema.
* `grouped_flatten`: groups of neighbours keep the order of the answers.
* `result_faithful`: the list is faithful always, the document exactly when no two sections with an
  answer share a title.
-/

namespace SheepContabil.SC06

section Groups

/-- The groups of a dictionary: the titles are its keys, and each group has answers of its title. -/
structure Grouped (groups : List (Text × List FormattedAnswer)) : Prop where
  titles : (groups.map (·.1)).Nodup
  members : ∀ g ∈ groups, ∀ r ∈ g.2, r.sectionTitle = g.1
  nonempty : ∀ g ∈ groups, g.2 ≠ []

variable {groups : List (Text × List FormattedAnswer)} {r : FormattedAnswer}

theorem addToGroup_new (h : r.sectionTitle ∉ groups.map (·.1)) :
    addToGroup groups r = groups ++ [(r.sectionTitle, [r])] := by
  induction groups with
  | nil => rfl
  | cons g rest ih =>
    rw [List.map_cons, List.mem_cons, not_or] at h
    rw [addToGroup, if_neg (Ne.symm h.1), ih h.2, List.cons_append]

theorem addToGroup_old {pre post : List (Text × List FormattedAnswer)} {members : List FormattedAnswer}
    (h : r.sectionTitle ∉ pre.map (·.1)) :
    addToGroup (pre ++ (r.sectionTitle, members) :: post) r =
      pre ++ (r.sectionTitle, members ++ [r]) :: post := by
  induction pre with
  | nil => simp [addToGroup]
  | cons g rest ih =>
    rw [List.map_cons, List.mem_cons, not_or] at h
    rw [List.cons_append, addToGroup, if_neg (Ne.symm h.1), ih h.2, List.cons_append]

/-- An answer starts a group, or joins the one of its title. -/
theorem Grouped.add_cases (h : Grouped groups) (r : FormattedAnswer) :
    (r.sectionTitle ∉ groups.map (·.1) ∧ addToGroup groups r = groups ++ [(r.sectionTitle, [r])]) ∨
      ∃ pre members post, groups = pre ++ (r.sectionTitle, members) :: post ∧
        addToGroup groups r = pre ++ (r.sectionTitle, members ++ [r]) :: post := by
  by_cases hin : r.sectionTitle ∈ groups.map (·.1)
  · right
    obtain ⟨⟨title, members⟩, hg, htitle⟩ := List.mem_map.mp hin
    obtain ⟨pre, post, hsplit⟩ := List.append_of_mem hg
    dsimp only at htitle
    subst htitle
    refine ⟨pre, members, post, hsplit, ?_⟩
    rw [hsplit]
    refine addToGroup_old fun hpre => ?_
    have hnodup := h.titles
    rw [hsplit, List.map_append, List.map_cons] at hnodup
    exact (List.nodup_append.mp hnodup).2.2 _ hpre _ List.mem_cons_self rfl
  · exact .inl ⟨hin, addToGroup_new hin⟩

theorem Grouped.add (h : Grouped groups) (r : FormattedAnswer) : Grouped (addToGroup groups r) := by
  -- the row opens a group of its own at the end, or joins the group of its title
  rcases h.add_cases r with ⟨hnew, heq⟩ | ⟨pre, members, post, rfl, heq⟩
  · rw [heq]
    refine ⟨?_, ?_, ?_⟩
    · rw [List.map_append, List.nodup_append]
      refine ⟨h.titles, List.nodup_singleton _, ?_⟩
      intro t ht t' ht' hsame
      rw [List.map_singleton, List.mem_singleton] at ht'
      rw [hsame, ht'] at ht
      exact hnew ht
    · intro g hg
      rcases List.mem_append.mp hg with hg | hg
      · exact h.members g hg
      · rw [List.mem_singleton.mp hg]; simp
    · intro g hg
      rcases List.mem_append.mp hg with hg | hg
      · exact h.nonempty g hg
      · rw [List.mem_singleton.mp hg]; simp
  · rw [heq]
    have hold := h.members (r.sectionTitle, members) (by simp)
    refine ⟨?_, ?_, ?_⟩
    · have htitles := h.titles
      rw [List.map_append, List.map_cons] at htitles ⊢
      exact htitles
    · intro g hg
      rcases List.mem_append.mp hg with hg | hg
      · exact h.members g (List.mem_append_left _ hg)
      · rcases List.mem_cons.mp hg with rfl | hg
        · intro r' hr'
          rcases List.mem_append.mp hr' with hr' | hr'
          · exact hold r' hr'
          · rw [List.mem_singleton.mp hr']
        · exact h.members g (List.mem_append_right _ (List.mem_cons_of_mem _ hg))
    · intro g hg
      rcases List.mem_append.mp hg with hg | hg
      · exact h.nonempty g (List.mem_append_left _ hg)
      · rcases List.mem_cons.mp hg with rfl | hg
        · simp
        · exact h.nonempty g (List.mem_append_right _ (List.mem_cons_of_mem _ hg))

theorem groupedAnswers_append (rows : List FormattedAnswer) (r : FormattedAnswer) :
    groupedAnswers (rows ++ [r]) = addToGroup (groupedAnswers rows) r := by
  rw [groupedAnswers, List.foldl_append, List.foldl_cons, List.foldl_nil, ← groupedAnswers]

theorem groupedAnswers_grouped (rows : List FormattedAnswer) : Grouped (groupedAnswers rows) := by
  induction rows using List.reverseRecOn with
  | nil => exact ⟨List.nodup_nil, by simp [groupedAnswers], by simp [groupedAnswers]⟩
  | append_singleton rows r ih => rw [groupedAnswers_append]; exact ih.add r

/-- The groups hold the answers that are grouped, and no other. -/
theorem groupedAnswers_perm (rows : List FormattedAnswer) :
    ((groupedAnswers rows).flatMap (·.2)).Perm rows := by
  induction rows using List.reverseRecOn with
  | nil => simp [groupedAnswers]
  | append_singleton rows r ih =>
    rw [groupedAnswers_append]
    rcases (groupedAnswers_grouped rows).add_cases r with ⟨-, heq⟩ | ⟨pre, members, post, hsplit, heq⟩
    · rw [heq, List.flatMap_append]
      simpa using ih.append_right [r]
    · rw [heq]
      have hrest : ((pre.flatMap (·.2) ++ members) ++ post.flatMap (·.2)).Perm rows := by
        simpa [hsplit] using ih
      -- the row moves behind the groups that follow its own
      have hmove : (pre.flatMap (·.2) ++ (members ++ [r] ++ post.flatMap (·.2))).Perm
          ((pre.flatMap (·.2) ++ members ++ post.flatMap (·.2)) ++ [r]) := by
        have hswap : ([r] ++ post.flatMap (·.2)).Perm (post.flatMap (·.2) ++ [r]) :=
          List.perm_append_comm
        simp only [List.append_assoc]
        exact (hswap.append_left members).append_left _
      simpa using hmove.trans (hrest.append_right [r])

/-- **Answers whose titles are together stay in order when they are grouped.** -/
theorem grouped_flatten {k : FormattedAnswer → ℕ} : ∀ {rows : List FormattedAnswer},
    rows.Pairwise (fun a b => k a ≤ k b) →
    (∀ a ∈ rows, ∀ b ∈ rows, a.sectionTitle = b.sectionTitle ↔ k a = k b) →
    (groupedAnswers rows).flatMap (·.2) = rows := by
  intro rows
  induction rows using List.reverseRecOn with
  | nil => intro _ _; rfl
  | append_singleton rows r ih =>
    intro hsorted hkey
    rw [List.pairwise_append] at hsorted
    have hflat := ih hsorted.1 fun a ha b hb =>
      hkey a (List.mem_append_left _ ha) b (List.mem_append_left _ hb)
    have hgrouped := groupedAnswers_grouped rows
    rw [groupedAnswers_append]
    rcases hgrouped.add_cases r with ⟨-, heq⟩ | ⟨pre, members, post, hsplit, heq⟩
    · rw [heq, List.flatMap_append, hflat]
      simp
    · -- the group of the title is the last one: an answer of a later group would stand between
      have hpost : post = [] := by
        by_contra hne
        obtain ⟨g, rest, rfl⟩ := List.exists_cons_of_ne_nil hne
        rw [hsplit] at hgrouped hflat
        obtain ⟨x, xs, hx⟩ := List.exists_cons_of_ne_nil
          (hgrouped.nonempty (r.sectionTitle, members) (by simp))
        obtain ⟨y, ys, hy⟩ := List.exists_cons_of_ne_nil (hgrouped.nonempty g (by simp))
        dsimp only at hx
        have hxr : x.sectionTitle = r.sectionTitle :=
          hgrouped.members (r.sectionTitle, members) (by simp) x (by simp [hx])
        have hyg : y.sectionTitle = g.1 := hgrouped.members g (by simp) y (by simp [hy])
        have hrows : rows = pre.flatMap (·.2) ++ (x :: xs ++ (y :: ys ++ rest.flatMap (·.2))) := by
          rw [← hflat]
          simp [hx, hy]
        have hxin : x ∈ rows := by rw [hrows]; simp
        have hyin : y ∈ rows := by rw [hrows]; simp
        have hxy : k x ≤ k y := by
          have hs := hsorted.1
          rw [hrows, List.pairwise_append] at hs
          exact (List.pairwise_append.mp hs.2.1).2.2 x (by simp) y (by simp)
        have hyr : k y ≤ k r := hsorted.2.2 y hyin r (by simp)
        have hkx : k x = k r :=
          (hkey x (List.mem_append_left _ hxin) r (by simp)).mp hxr
        have hky : y.sectionTitle = r.sectionTitle :=
          (hkey y (List.mem_append_left _ hyin) r (by simp)).mpr (by omega)
        have htitles := hgrouped.titles
        rw [List.map_append, List.map_cons, List.map_cons] at htitles
        have hnext := (List.nodup_cons.mp (List.nodup_append.mp htitles).2.1).1
        exact hnext (by simp [← hky, hyg])
      subst hpost
      rw [hsplit] at hflat
      rw [heq]
      simp only [List.flatMap_append, List.flatMap_cons, List.flatMap_nil, List.append_nil] at hflat ⊢
      rw [← hflat, List.append_assoc]

end Groups

section Listing

variable {validators : Validators} {schema : Schema} {answers : QuestionId → Option RawAnswer}
  {stored : List (QuestionId × Answer)}

/-- The row of a question, if it has an answer. -/
def Placed.row (stored : List (QuestionId × Answer)) (p : Placed) : Option FormattedAnswer :=
  (stored.lookup p.question.id).map fun value =>
    { sectionId := p.sectionId
      sectionTitle := p.sectionTitle
      questionId := p.question.id
      questionLabel := p.question.label
      questionType := p.question.type
      value := value
      displayValue := formatAnswer p.question value }

theorem formatAnswers_shown (h : schema.accepted validators = true)
    (hstored : stored = answersOf (keptAnswer validators answers)
      (sanitizeShown validators answers schema)) :
    formatAnswers validators stored schema =
      (sanitizeShown validators answers schema).filterMap (Placed.row stored) := by
  rw [← stored_shown h hstored, ← activeSections_shown h, List.filterMap_flatMap, formatAnswers]
  congr 1
  funext s
  rw [Section.placed, List.filterMap_map]
  rfl

/-- The consolidated result lists every stored answer once, in the order of the schema, with its own
section and question. -/
structure Listed (schema : Schema) (stored : List (QuestionId × Answer))
    (formatted : List FormattedAnswer) : Prop where
  answers : formatted.map (fun r => (r.questionId, r.value)) = stored
  once : (formatted.map (·.questionId)).Nodup
  order : (formatted.map fun r => (r.sectionId, r.questionId)).Sublist
    (schema.sections.flatMap fun s => s.questions.map fun q => (s.id, q.id))
  source : ∀ r ∈ formatted, ∃ s ∈ schema.sections, ∃ q ∈ s.questions,
    r.sectionId = s.id ∧ r.sectionTitle = s.title ∧ r.questionId = q.id ∧
      r.questionLabel = q.label ∧ r.questionType = q.type ∧ r.displayValue = formatAnswer q r.value

theorem row_fields {p : Placed} {r : FormattedAnswer} (h : p.row stored = some r) :
    r.sectionId = p.sectionId ∧ r.sectionTitle = p.sectionTitle ∧ r.questionId = p.question.id ∧
      r.questionLabel = p.question.label ∧ r.questionType = p.question.type ∧
      r.displayValue = formatAnswer p.question r.value ∧
      stored.lookup p.question.id = some r.value := by
  unfold Placed.row at h
  cases hvalue : stored.lookup p.question.id with
  | none => simp [hvalue] at h
  | some value =>
    rw [hvalue, Option.map_some, Option.some.injEq] at h
    subst h
    exact ⟨rfl, rfl, rfl, rfl, rfl, rfl, rfl⟩

theorem filterMap_row_map {β : Type} {placed : List Placed} {f : FormattedAnswer → β} {g : Placed → β}
    (h : ∀ p r, p.row stored = some r → f r = g p) :
    ((placed.filterMap (Placed.row stored)).map f).Sublist (placed.map g) := by
  induction placed with
  | nil => exact List.Sublist.slnil
  | cons p rest ih =>
    rw [List.filterMap_cons]
    cases hrow : p.row stored with
    | none => exact ih.cons _
    | some r =>
      rw [List.map_cons, List.map_cons, h p r hrow]
      exact ih.cons_cons _

theorem formatAnswers_listed (h : schema.accepted validators = true)
    (hstored : stored = answersOf (keptAnswer validators answers)
      (sanitizeShown validators answers schema)) :
    Listed schema stored (formatAnswers validators stored schema) := by
  rw [formatAnswers_shown h hstored]
  have hsub : (sanitizeShown validators answers schema).Sublist schema.placed := by
    rw [sanitizeShown, shown_fixed h]
    exact List.filter_sublist
  refine ⟨?_, ?_, ?_, ?_⟩
  · have hrow : ∀ p ∈ sanitizeShown validators answers schema,
        ((p.row stored).map fun r => (r.questionId, r.value)).toList =
          entry p.question (keptAnswer validators answers p.question) := by
      intro p hp
      have hlookup := stored_lookup h hp
      rw [← hstored] at hlookup
      unfold Placed.row entry
      rw [hlookup]
      cases keptAnswer validators answers p.question <;> rfl
    rw [List.map_filterMap, List.filterMap_eq_flatMap_toList]
    conv_rhs => rw [hstored, answersOf]
    rw [List.flatMap_def, List.flatMap_def, List.map_congr_left hrow]
  · have hids : ((sanitizeShown validators answers schema).filterMap (Placed.row stored)).map
        (·.questionId) |>.Sublist ((sanitizeShown validators answers schema).map (·.question.id)) :=
      filterMap_row_map fun p r hr => (row_fields hr).2.2.1
    exact (shown_nodup h).sublist hids
  · have hplaces : schema.placed.map (fun p => (p.sectionId, p.question.id)) =
        schema.sections.flatMap fun s => s.questions.map fun q => (s.id, q.id) := by
      rw [Schema.placed, List.map_flatMap]
      congr 1
      funext s
      rw [Section.placed, List.map_map]
      rfl
    rw [← hplaces]
    refine (filterMap_row_map fun p r hr => ?_).trans (hsub.map _)
    rw [(row_fields hr).1, (row_fields hr).2.2.1]
  · intro r hr
    obtain ⟨p, hp, hrow⟩ := List.mem_filterMap.mp hr
    obtain ⟨s, hs, hp⟩ := List.mem_flatMap.mp (shown_placed h hp)
    obtain ⟨q, hq, rfl⟩ := List.mem_map.mp hp
    obtain ⟨hid, htitle, hquestion, hlabel, htype, hdisplay, -⟩ := row_fields hrow
    exact ⟨s, hs, q, hq, hid, htitle, hquestion, hlabel, htype, hdisplay⟩

/-- The document keeps the order of the answers, and the answers under a heading are of one section. -/
structure FaithfulGroups (formatted : List FormattedAnswer)
    (groups : List (Text × List FormattedAnswer)) : Prop where
  order : groups.flatMap (·.2) = formatted
  own : ∀ g ∈ groups, ∀ a ∈ g.2, ∀ b ∈ g.2, a.sectionId = b.sectionId

/-- A section with a stored answer. -/
def Section.answered (stored : List (QuestionId × Answer)) (s : Section) : Prop :=
  ∃ q ∈ s.questions, (stored.lookup q.id).isSome = true

/-- No two sections that have an answer share a title. -/
def Schema.OwnTitles (schema : Schema) (stored : List (QuestionId × Answer)) : Prop :=
  ∀ s ∈ schema.sections, ∀ s' ∈ schema.sections, s.answered stored → s'.answered stored →
    s.title = s'.title → s.id = s'.id

/-- Where a section stands in the schema. -/
def Schema.position (schema : Schema) (sectionId : Text) : ℕ :=
  (schema.sections.map (·.id)).idxOf sectionId

theorem accepted_sections (h : schema.accepted validators = true) :
    (schema.sections.map (·.id)).Nodup := by
  simp only [Schema.accepted, Bool.and_eq_true, decide_eq_true_eq] at h
  exact h.1.1.2

/-- The questions of a schema stand in the order of their sections. -/
theorem placed_sorted (h : schema.accepted validators = true) :
    schema.placed.Pairwise fun a b => schema.position a.sectionId ≤ schema.position b.sectionId := by
  rw [Schema.placed, List.pairwise_flatMap]
  constructor
  · intro s _
    rw [Section.placed, List.pairwise_map]
    exact List.pairwise_of_forall fun _ _ => le_rfl
  · rw [List.pairwise_iff_getElem]
    intro i j hi hj hij a ha b hb
    obtain ⟨q, -, rfl⟩ := List.mem_map.mp ha
    obtain ⟨q', -, rfl⟩ := List.mem_map.mp hb
    have hposition : ∀ n (hn : n < schema.sections.length),
        schema.position schema.sections[n].id = n := by
      intro n hn
      have hlength : n < (schema.sections.map (·.id)).length := by simpa using hn
      have hindex := (accepted_sections h).idxOf_getElem n hlength
      rwa [List.getElem_map] at hindex
    change schema.position schema.sections[i].id ≤ schema.position schema.sections[j].id
    rw [hposition i hi, hposition j hj]
    omega

theorem rows_sorted (h : schema.accepted validators = true) {placed : List Placed}
    (hsub : placed.Sublist schema.placed) :
    (placed.filterMap (Placed.row stored)).Pairwise
      fun a b => schema.position a.sectionId ≤ schema.position b.sectionId := by
  rw [List.pairwise_filterMap]
  refine ((placed_sorted h).sublist hsub).imp fun hle a ha b hb => ?_
  rw [(row_fields ha).1, (row_fields hb).1]
  exact hle

/-- A section is known by its identifier. -/
theorem section_of_id (h : schema.accepted validators = true) {s s' : Section}
    (hs : s ∈ schema.sections) (hs' : s' ∈ schema.sections) (hid : s.id = s'.id) : s = s' :=
  List.inj_on_of_nodup_map (accepted_sections h) hs hs' hid

theorem lookup_isSome {field : QuestionId} :
    (stored.lookup field).isSome = true ↔ ∃ x ∈ stored, x.1 = field := by
  rw [Option.isSome_iff_ne_none, ne_eq, List.lookup_eq_none_iff]
  constructor
  · intro h
    push Not at h
    obtain ⟨x, hx, heq⟩ := h
    have hsame : field = x.1 := by simpa using heq
    exact ⟨x, hx, hsame.symm⟩
  · rintro ⟨x, hx, rfl⟩ hnone
    simpa using hnone x hx

/-- The rows of a section that has an answer. -/
theorem answered_row (h : schema.accepted validators = true) {formatted : List FormattedAnswer}
    (hlisted : Listed schema stored formatted) {s : Section} (hs : s ∈ schema.sections)
    (hanswered : s.answered stored) :
    ∃ r ∈ formatted, r.sectionId = s.id ∧ r.sectionTitle = s.title := by
  obtain ⟨q, hq, hvalue⟩ := hanswered
  obtain ⟨x, hx, hid⟩ := lookup_isSome.mp hvalue
  rw [← hlisted.answers] at hx
  obtain ⟨r, hr, rfl⟩ := List.mem_map.mp hx
  obtain ⟨s', hs', q', hq', hsection, htitle, hquestion, -⟩ := hlisted.source r hr
  have hsame : s'.place q' = s.place q :=
    List.inj_on_of_nodup_map (Schema.accepted_backward h).nodup (mem_placed hs' hq')
      (mem_placed hs hq) (hquestion.symm.trans hid)
  have hid' : s'.id = s.id := congrArg Placed.sectionId hsame
  have htitle' : s'.title = s.title := congrArg Placed.sectionTitle hsame
  exact ⟨r, hr, hsection.trans hid', htitle.trans htitle'⟩

/-- The section of a row has an answer. -/
theorem row_answered {formatted : List FormattedAnswer} (hlisted : Listed schema stored formatted)
    {r : FormattedAnswer} (hr : r ∈ formatted) :
    ∃ s ∈ schema.sections, r.sectionId = s.id ∧ r.sectionTitle = s.title ∧ s.answered stored := by
  obtain ⟨s, hs, q, hq, hsection, htitle, hquestion, -⟩ := hlisted.source r hr
  refine ⟨s, hs, hsection, htitle, q, hq, lookup_isSome.mpr ⟨(r.questionId, r.value), ?_, hquestion⟩⟩
  rw [← hlisted.answers]
  exact List.mem_map_of_mem hr

/-- **The consolidated result is faithful, and its document is exactly when no two sections with an
answer share a title.** -/
theorem result_faithful (validators : Validators) (u : Unicode) (requireComplete : Bool)
    (schema : Schema) (answers : QuestionId → Option RawAnswer) (stored : List (QuestionId × Answer))
    (haccepted : schema.accepted validators = true)
    (hok : sanitizeAnswers validators u answers requireComplete schema = .ok stored) :
    Listed schema stored (formatAnswers validators stored schema) ∧
      (FaithfulGroups (formatAnswers validators stored schema)
          (groupedAnswers (formatAnswers validators stored schema)) ↔ schema.OwnTitles stored) := by
  obtain ⟨hstored, -, -⟩ := (sanitizeAnswers_ok haccepted).mp hok
  have hlisted := formatAnswers_listed haccepted hstored
  refine ⟨hlisted, ?_⟩
  have hsorted : (formatAnswers validators stored schema).Pairwise
      fun a b => schema.position a.sectionId ≤ schema.position b.sectionId := by
    rw [formatAnswers_shown haccepted hstored]
    refine rows_sorted haccepted ?_
    rw [sanitizeShown, shown_fixed haccepted]
    exact List.filter_sublist
  have hgrouped := groupedAnswers_grouped (formatAnswers validators stored schema)
  have hperm := groupedAnswers_perm (formatAnswers validators stored schema)
  constructor
  · intro hfaithful s hs s' hs' hanswered hanswered' htitle
    obtain ⟨r, hr, hid, hrtitle⟩ := answered_row haccepted hlisted hs hanswered
    obtain ⟨r', hr', hid', hrtitle'⟩ := answered_row haccepted hlisted hs' hanswered'
    -- two rows of one title are in one group
    obtain ⟨g, hg, hrg⟩ := List.mem_flatMap.mp (hperm.mem_iff.mpr hr)
    obtain ⟨g', hg', hrg'⟩ := List.mem_flatMap.mp (hperm.mem_iff.mpr hr')
    have htitles : g.1 = g'.1 := by
      rw [← hgrouped.members g hg r hrg, ← hgrouped.members g' hg' r' hrg', hrtitle, hrtitle', htitle]
    have hsame : g = g' := List.inj_on_of_nodup_map hgrouped.titles hg hg' htitles
    subst hsame
    rw [← hid, ← hid']
    exact hfaithful.own g hg r hrg r' hrg'
  · intro hown
    -- a title then names one position, so the groups of a sorted list are its runs
    have hkey : ∀ a ∈ formatAnswers validators stored schema,
        ∀ b ∈ formatAnswers validators stored schema, a.sectionTitle = b.sectionTitle ↔
          schema.position a.sectionId = schema.position b.sectionId := by
      intro a ha b hb
      obtain ⟨s, hs, hid, htitle, hanswered⟩ := row_answered hlisted ha
      obtain ⟨s', hs', hid', htitle', hanswered'⟩ := row_answered hlisted hb
      rw [hid, hid', htitle, htitle', Schema.position, Schema.position,
        List.idxOf_inj (List.mem_map_of_mem hs)]
      exact ⟨hown s hs s' hs' hanswered hanswered', fun heq =>
        congrArg Section.title (section_of_id haccepted hs hs' heq)⟩
    refine ⟨grouped_flatten hsorted hkey, fun g hg a ha b hb => ?_⟩
    have hin : ∀ r ∈ g.2, r ∈ formatAnswers validators stored schema := fun r hr =>
      hperm.mem_iff.mp (List.mem_flatMap.mpr ⟨g, hg, hr⟩)
    have htitle : a.sectionTitle = b.sectionTitle :=
      (hgrouped.members g hg a ha).trans (hgrouped.members g hg b hb).symm
    obtain ⟨s, hs, hid, hstitle, hanswered⟩ := row_answered hlisted (hin a ha)
    obtain ⟨s', hs', hid', hstitle', hanswered'⟩ := row_answered hlisted (hin b hb)
    rw [hid, hid']
    exact hown s hs s' hs' hanswered hanswered' (hstitle.symm.trans (htitle.trans hstitle'))

end Listing

section Simulation

/-- A section with one text question. -/
def textSection (id title question : String) : Section where
  id := id.toList
  title := title.toList
  questions := [{ id := question.toList, label := "Nome".toList, type := .text }]

/-- The first and the last section have the same title. -/
def partnersSchema : Schema where
  title := "Abertura".toList
  sections := [textSection "um" "Sócio" "nome1", textSection "sede" "Sede" "rua",
    textSection "dois" "Sócio" "nome2"]

def partnersStored : List (QuestionId × Answer) :=
  [("nome1".toList, .text "Ana".toList), ("rua".toList, .text "Ana".toList),
    ("nome2".toList, .text "Ana".toList)]

/-- **Two sections of one title share a heading, and the answers leave the order of the schema.** -/
theorem shared_heading :
    partnersSchema.accepted anyValidators = true ∧
      sanitizeAnswers anyValidators asciiUnicode (answeredWith "Ana") true partnersSchema =
        .ok partnersStored ∧
      (groupedAnswers (formatAnswers anyValidators partnersStored partnersSchema)).map
          (fun g => (g.1, g.2.map (·.sectionId))) =
        [("Sócio".toList, ["um".toList, "dois".toList]), ("Sede".toList, ["sede".toList])] ∧
      ¬ FaithfulGroups (formatAnswers anyValidators partnersStored partnersSchema)
        (groupedAnswers (formatAnswers anyValidators partnersStored partnersSchema)) := by
  refine ⟨by decide +kernel, by rfl, by decide +kernel, fun h => ?_⟩
  have horder := congrArg (List.map (·.sectionId)) h.order
  revert horder
  decide +kernel

/-- Two sections of different titles. -/
def partnerSchema : Schema where
  title := "Abertura".toList
  sections := [textSection "um" "Sócio" "nome1", textSection "sede" "Sede" "rua"]

/-- Their answers stand under their own headings. -/
theorem result_faithful_sim :
    FaithfulGroups
      (formatAnswers anyValidators
        [("nome1".toList, .text "Ana".toList), ("rua".toList, .text "Ana".toList)] partnerSchema)
      (groupedAnswers (formatAnswers anyValidators
        [("nome1".toList, .text "Ana".toList), ("rua".toList, .text "Ana".toList)] partnerSchema)) :=
  (result_faithful anyValidators asciiUnicode true partnerSchema (answeredWith "Ana") _
    (by decide +kernel) (by rfl)).2.mpr (by
      have hown : (partnerSchema.sections.map (·.title)).Nodup := by decide +kernel
      intro s hs s' hs' _ _ htitle
      exact congrArg Section.id (List.inj_on_of_nodup_map hown hs hs' htitle))

end Simulation

end SheepContabil.SC06
