import Colloquy.Proofs.Conversation.Repetition
import Colloquy.Proofs.Evaluation.Unchanged

namespace Colloquy

/-!
# What reloading forgets

Whatever is remembered of patterns, matches and variables is stored under the name of
the knowledge base, however deep in an evaluation it is stored. A knowledge base keeps
its name for good. So when its rules are reloaded and all that is stored under its name
is dropped, nothing is left that was derived from the rules before.
-/

/-! ## Tags of entries -/

namespace Cache

variable {κ ν : Type}

/-- Every entry carries the tag. -/
def Tagged
    (cache : Cache κ ν)
    (tag : Text) :
    Prop :=
  ∀ entry ∈ cache.entries, entry.tag = some tag

/-- An empty cache is tagged with whatever one likes. -/
theorem tagged_of_empty
    {cache : Cache κ ν}
    (isEmpty : cache.entries = [])
    (tag : Text) :
    cache.Tagged tag := by
  rw [Tagged, isEmpty]
  exact List.forall_mem_nil _

/-- If every entry carries a tag, dropping the tag drops every entry. -/
theorem Tagged.entries_invalidate
    {cache : Cache κ ν}
    {tag : Text}
    (tagged : cache.Tagged tag) :
    (cache.invalidate tag).2.entries = [] := by
  apply List.filter_eq_nil_iff.mpr
  intro entry member
  simp [tagged entry member]

variable [DecidableEq κ]

/-- Looking a key up adds no entry. -/
theorem mem_of_mem_lookup
    {cache : Cache κ ν}
    {key : κ}
    {entry : CacheEntry κ ν}
    (member : entry ∈ (cache.lookup key).2.entries) :
    entry ∈ cache.entries := by
  simp only [lookup] at member
  split at member
  · exact member
  · next found present =>
      split at member
      · exact (List.mem_filter.mp member).1
      · rcases List.mem_cons.mp member with rfl | isOther
        · exact List.mem_of_find?_eq_some present
        · exact (List.mem_filter.mp isOther).1

/-- An entry of a cache that was given a value is the new one or an old one. -/
theorem tag_or_mem_of_mem_insert
    {cache : Cache κ ν}
    {key : κ}
    {value : ν}
    {tag : Option Text}
    {entry : CacheEntry κ ν}
    (member : entry ∈ (cache.insert key value tag).entries) :
    entry.tag = tag ∨ entry ∈ cache.entries := by
  simp only [insert] at member
  split at member
  · rcases List.mem_cons.mp member with rfl | isOld
    · exact Or.inl rfl
    · exact Or.inr ((List.dropLast_sublist _).subset isOld)
  · rcases List.mem_cons.mp member with rfl | isOld
    · exact Or.inl rfl
    · exact Or.inr (List.mem_filter.mp isOld).1

namespace Tagged

variable {cache : Cache κ ν} {tag : Text}

/-- Looking something up adds no entry. -/
theorem lookup
    (tagged : cache.Tagged tag)
    (key : κ) :
    (cache.lookup key).2.Tagged tag :=
  fun entry member => tagged entry (mem_of_mem_lookup member)

/-- What is inserted under the tag has the tag. -/
theorem insert
    (tagged : cache.Tagged tag)
    (key : κ)
    (value : ν) :
    (cache.insert key value (some tag)).Tagged tag := by
  intro entry member
  rcases tag_or_mem_of_mem_insert member with isNew | isOld
  · exact isNew
  · exact tagged entry isOld

/-- What is computed and remembered under the tag has the tag. -/
theorem lookupOrInsert
    (tagged : cache.Tagged tag)
    (key : κ)
    (compute : Unit → ν) :
    (cache.lookupOrInsert key (some tag) compute).2.Tagged tag := by
  have looked := tagged.lookup key
  simp only [Cache.lookupOrInsert]
  split
  · next value after step =>
      rw [step] at looked
      exact looked
  · next after step =>
      rw [step] at looked
      exact looked.insert key (compute ())

end Tagged

end Cache

/-! ## Selections under a tag -/

namespace Selector

/-- All that was read and matched is remembered under the tag. -/
structure Tagged
    (selector : Selector)
    (tag : Text) :
    Prop where
  patterns : selector.patterns.Tagged tag
  verdicts : selector.verdicts.Tagged tag

namespace Tagged

variable {selector : Selector} {tag : Text}

/-- A pattern that is compiled is remembered under the tag. -/
theorem compile
    (tagged : selector.Tagged tag)
    (source : Text) :
    (selector.compile tag source).2.Tagged tag :=
  ⟨tagged.patterns.lookupOrInsert source fun _ => Pattern.compile source, tagged.verdicts⟩

/-- A verdict is remembered under the tag, and so is the pattern read for it. -/
theorem verdict
    (tagged : selector.Tagged tag)
    (pattern : Text)
    (utterance : Utterance) :
    (selector.verdict tag pattern utterance).2.Tagged tag := by
  have looked := tagged.verdicts.lookup (pattern, utterance.key)
  simp only [Selector.verdict]
  split
  · next found verdicts step =>
      rw [step] at looked
      exact ⟨tagged.patterns, looked⟩
  · next verdicts step =>
      rw [step] at looked
      have between : Tagged ⟨selector.patterns, verdicts⟩ tag := ⟨tagged.patterns, looked⟩
      have compiled := between.compile pattern
      exact ⟨compiled.patterns, compiled.verdicts.insert (pattern, utterance.key) _⟩

theorem matchForms
    (tagged : selector.Tagged tag)
    (pattern : Text)
    (forms : ContextForms) :
    (selector.matchForms tag pattern forms).2.Tagged tag := by
  have first := tagged.verdict pattern forms.whole
  simp only [Selector.matchForms]
  split
  · next found after step =>
      rw [step] at first
      exact first
  · next after step =>
      rw [step] at first
      split
      · exact first
      · next last _ =>
          exact first.verdict pattern last

theorem matchConstraint
    (tagged : selector.Tagged tag)
    (pattern : Option Text)
    (forms : ContextForms) :
    (selector.matchConstraint tag pattern forms).2.Tagged tag := by
  cases pattern with
  | none =>
      exact tagged
  | some pattern =>
      exact tagged.matchForms pattern forms

/-- Considering a rule stores what it takes under the tag, wherever it stops. -/
theorem consider
    (scene : Scene)
    {tally : Tally}
    (tagged : tally.selector.Tagged tag)
    (rule : Rule) :
    (consider tag scene tally rule).selector.Tagged tag := by
  have input := tagged.verdict rule.category.pattern scene.input
  simp only [Selector.consider]
  split
  · next selector step =>
      rw [step] at input
      exact input
  · next found selector step =>
      rw [step] at input
      have that := input.matchConstraint rule.category.that scene.that
      split
      · next selector step =>
          rw [step] at that
          exact that
      · next metThat selector step =>
          rw [step] at that
          have topic := that.matchConstraint rule.category.topic scene.topic
          split
          · next selector step =>
              rw [step] at topic
              exact topic
          · next metTopic selector step =>
              rw [step] at topic
              exact topic

theorem foldl_consider
    (scene : Scene)
    {tally : Tally}
    (tagged : tally.selector.Tagged tag)
    (rules : List Rule) :
    (rules.foldl (Selector.consider tag scene) tally).selector.Tagged tag := by
  induction rules generalizing tally with
  | nil =>
      exact tagged
  | cons rule rest inductionHypothesis =>
      exact inductionHypothesis (tagged.consider scene rule)

/-- An explanation remembers everything under the name of the knowledge base. -/
theorem explain
    {knowledge : KnowledgeBase}
    (tagged : selector.Tagged knowledge.name)
    (context : Context) :
    (selector.explain knowledge context).2.Tagged knowledge.name :=
  foldl_consider _ tagged _

end Tagged

end Selector

/-- A variable is remembered under the name of the knowledge base. -/
theorem VariableCache.tagged_resolve
    {cache : VariableCache}
    {knowledge : KnowledgeBase}
    (tagged : Cache.Tagged cache knowledge.name)
    (frame : Frame)
    (session : Session)
    (name : Text) :
    Cache.Tagged (cache.resolve frame session knowledge name).2 knowledge.name :=
  tagged.lookupOrInsert _ _

/-! ## Names of knowledge bases -/

namespace KnowledgeBase.SameScopes

/-- Adding rules changes neither the name nor the variables. -/
theorem extend
    (knowledge : KnowledgeBase)
    (categories : List Category) :
    knowledge.SameScopes (knowledge.extend categories) := by
  induction categories generalizing knowledge with
  | nil =>
      exact refl knowledge
  | cons category rest inductionHypothesis =>
      have added : knowledge.SameScopes (knowledge.add category).2 := ⟨rfl, rfl, rfl⟩
      exact added.trans (inductionHypothesis _)

theorem reload
    (knowledge : KnowledgeBase)
    (categories : List Category) :
    knowledge.SameScopes (knowledge.reload categories) :=
  have emptied : knowledge.SameScopes { knowledge with rules := RuleSet.empty } := ⟨rfl, rfl, rfl⟩
  emptied.trans (extend _ categories)

/-- Edits of the rules change neither the name nor the variables. -/
theorem edit
    (knowledge : KnowledgeBase)
    (edit : Edit) :
    knowledge.SameScopes (knowledge.edit edit) := by
  cases edit with
  | add category =>
      exact ⟨rfl, rfl, rfl⟩
  | extend categories =>
      exact extend knowledge categories
  | remove category serial =>
      exact remove knowledge category serial
  | reload categories =>
      exact reload knowledge categories

end KnowledgeBase.SameScopes

/-! ## Interpreters that remember under a name -/

namespace Interpreter

/-- The knowledge base has the name, and what is remembered with its help is stored under it. -/
structure Labelled
    (label : Text)
    (interpreter : Interpreter) :
    Prop where
  name : interpreter.knowledge.name = label
  selector : interpreter.selector.Tagged label
  variableCache : Cache.Tagged interpreter.variableCache label

/-- All four caches are empty. -/
structure RemembersNothing (interpreter : Interpreter) : Prop where
  variableCache : interpreter.variableCache.entries = []
  patterns : interpreter.selector.patterns.entries = []
  verdicts : interpreter.selector.verdicts.entries = []
  templates : interpreter.templates.cache.entries = []

/-- An interpreter that remembers nothing is labelled by its knowledge base. -/
theorem RemembersNothing.labelled
    {interpreter : Interpreter}
    (nothing : interpreter.RemembersNothing) :
    interpreter.Labelled interpreter.knowledge.name :=
  ⟨rfl, ⟨Cache.tagged_of_empty nothing.patterns _, Cache.tagged_of_empty nothing.verdicts _⟩,
    Cache.tagged_of_empty nothing.variableCache _⟩

/-- A new interpreter remembers nothing. -/
theorem remembersNothing_new
    (knowledge : KnowledgeBase)
    (settings : Settings)
    (picks : List Nat) :
    (new knowledge settings picks).RemembersNothing :=
  ⟨rfl, rfl, rfl, rfl⟩

/-- Clearing the caches leaves nothing remembered. -/
theorem remembersNothing_clearCaches (interpreter : Interpreter) :
    interpreter.clearCaches.RemembersNothing :=
  ⟨rfl, rfl, rfl, rfl⟩

namespace Labelled

variable {label : Text} {interpreter : Interpreter}

/-- A label depends on the knowledge base's name only. -/
theorem withKnowledge
    (labelled : interpreter.Labelled label)
    {knowledge : KnowledgeBase}
    (same : interpreter.knowledge.SameScopes knowledge) :
    Labelled label { interpreter with knowledge } :=
  ⟨same.name.trans labelled.name, labelled.selector, labelled.variableCache⟩

theorem explain
    (labelled : interpreter.Labelled label)
    (session : Session)
    (input : Text) :
    (interpreter.explain session input).2.Labelled label := by
  obtain ⟨rfl, selector, variableCache⟩ := labelled
  exact ⟨rfl, selector.explain _, variableCache⟩

theorem select
    (labelled : interpreter.Labelled label)
    (session : Session)
    (input : Text) :
    (interpreter.select session input).2.Labelled label :=
  ⟨labelled.name, (labelled.explain session input).selector, labelled.variableCache⟩

theorem learn
    (labelled : interpreter.Labelled label)
    (candidate : Category)
    (session : Session) :
    (interpreter.learn candidate session).2.2.Labelled label :=
  labelled.withKnowledge (learn_keeps _ candidate session interpreter.knowledge).2

theorem unlearn
    (labelled : interpreter.Labelled label)
    (candidate : Category)
    (session : Session) :
    (interpreter.unlearn candidate session).2.2.Labelled label :=
  labelled.withKnowledge (unlearn_keeps candidate session interpreter.knowledge).2

/-- What is stored under the name is dropped with it, and there is nothing else. -/
theorem remembersNothing_reload
    (labelled : interpreter.Labelled label)
    (categories : List Category) :
    (interpreter.reload categories).RemembersNothing := by
  have isName : (interpreter.knowledge.reload categories).name = label :=
    (KnowledgeBase.SameScopes.reload interpreter.knowledge categories).name.trans labelled.name
  simp only [Interpreter.reload, isName]
  exact ⟨labelled.variableCache.entries_invalidate, labelled.selector.patterns.entries_invalidate,
    labelled.selector.verdicts.entries_invalidate, rfl⟩

theorem reload
    (labelled : interpreter.Labelled label)
    (categories : List Category) :
    (interpreter.reload categories).Labelled label := by
  have isName : (interpreter.reload categories).knowledge.name = label :=
    (KnowledgeBase.SameScopes.reload interpreter.knowledge categories).name.trans labelled.name
  rw [← isName]
  exact (labelled.remembersNothing_reload categories).labelled

theorem clearCaches (labelled : interpreter.Labelled label) :
    interpreter.clearCaches.Labelled label := by
  rw [← labelled.name]
  exact (remembersNothing_clearCaches interpreter).labelled

end Labelled

end Interpreter

/-! ## Evaluations -/

namespace Evaluation

/-- The evaluation leaves an interpreter labelled as it found it. -/
def KeepsLabel
    (label : Text)
    {α : Type}
    (evaluation : Evaluation α) :
    Prop :=
  ∀ turn, turn.interpreter.Labelled label → (evaluation turn).2.interpreter.Labelled label

/-- Steps that read keep the label. -/
theorem Reading.keepsLabel
    {α : Type}
    {step : Evaluation α}
    (reading : Reading step)
    (label : Text) :
    KeepsLabel label step := by
  intro turn labelled
  cases reading with
  | fetch text =>
      exact ⟨labelled.name, labelled.selector, labelled.variableCache⟩
  | resolve name =>
      -- The only value that an element stores itself goes under the name of the knowledge base.
      obtain ⟨rfl, selector, variableCache⟩ := labelled
      exact ⟨rfl, selector, VariableCache.tagged_resolve variableCache turn.frame turn.session name⟩
  | localValue | property | bound | recalled =>
      exact labelled

/-- Steps that change something keep the label. -/
theorem Change.keepsLabel
    {tag : Markup.Tag}
    {α : Type}
    {step : Evaluation α}
    (change : Change tag step)
    (label : Text) :
    KeepsLabel label step := by
  intro turn labelled
  rcases change.notes_or_teaches turn with
    ⟨_, _, _, _, _, _, isAfter⟩ | ⟨candidate, isAfter | isAfter⟩
  · rw [isAfter]
    exact ⟨labelled.name, labelled.selector, labelled.variableCache⟩
  · rw [isAfter]
    exact labelled.learn candidate turn.session
  · rw [isAfter]
    exact labelled.unlearn candidate turn.session

/-- All steps of evaluations keep labels. -/
def labelling (label : Text) : Correspondence Unit where
  holds _ evaluation := KeepsLabel label evaluation
  admits _ := True
  value _ _ labelled := labelled
  sequence first next turn labelled := next _ _ (first turn labelled)
  reading reading := reading.keepsLabel label
  change _ _ change := change.keepsLabel label
  admits_sublist _ _ := trivial
  admits_children _ := trivial
  admits_value _ _ _ := trivial

/-- Answers keep the label, however deep they go. -/
theorem keepsLabel_answerWithin
    (label : Text)
    (remaining : Nat)
    (input : Text) :
    (labelling label).holds (fun _ => answerWithin remaining input)
      (answerWithin remaining input) := by
  induction remaining generalizing input with
  | zero =>
      exact (labelling label).value []
  | succ remaining inductionHypothesis =>
      have selects (turn : Turn) (labelled : turn.interpreter.Labelled label) :=
        labelled.select turn.session (Text.collapse input)
      apply (labelling label).answerBy input selects
      intro selected turn labelled
      have evaluates (nodes : List Markup.Node) :
          (labelling label).holds (fun _ => evaluateWithin remaining nodes)
            (evaluateWithin remaining nodes) := by
        rw [evaluateWithin_eq]
        exact (labelling label).evaluateNodes inductionHypothesis trivial
      have template := (labelling label).templateBy selected.category.template (evaluates _)
      exact template { turn with frame := turn.frame.child selected.bindings } labelled

/-- However rules are called on the way, evaluating a template keeps labels. -/
theorem keepsLabel_evaluateTemplate
    (label : Text)
    (template : Text) :
    KeepsLabel label (evaluateTemplate template) := by
  have evaluates (nodes : List Markup.Node) :
      (labelling label).holds (fun _ => evaluate nodes) (evaluate nodes) := by
    intro turn labelled
    rw [evaluate, evaluateWithin_eq]
    exact (labelling label).evaluateNodes (keepsLabel_answerWithin label _) trivial turn labelled
  exact (labelling label).templateBy template (evaluates _)

end Evaluation

/-! ## Whatever happens -/

namespace Interpreter

theorem Labelled.evaluateIn
    {label : Text}
    {interpreter : Interpreter}
    (labelled : interpreter.Labelled label)
    (session : Session)
    (bindings : Bindings)
    (template : Text) :
    (interpreter.evaluateIn session bindings template).2.2.Labelled label :=
  Evaluation.keepsLabel_evaluateTemplate label template
    ⟨interpreter, session, Frame.root bindings⟩ labelled

/-- Answering keeps labels. -/
def labelling (label : Text) : Passage where
  relates before after := before.2.Labelled label → after.2.Labelled label
  refl _ labelled := labelled
  trans earlier later labelled := later (earlier labelled)
  request _ _ _ labelled := labelled
  response _ _ _ labelled := labelled
  select session _ input labelled := labelled.select session input
  evaluate _ labelled := labelled.evaluateIn _ _ _

end Interpreter

namespace Service

variable {ι : Type} [DecidableEq ι]

theorem labelled_perform
    {label : Text}
    {service : Service ι}
    (labelled : service.interpreter.Labelled label)
    (operation : Operation ι) :
    (service.perform operation).2.interpreter.Labelled label := by
  cases operation with
  | respond who utterance =>
      exact (Interpreter.labelling label).respond _ (service.sessions who) utterance labelled
  | evaluate who bindings template =>
      exact labelled.evaluateIn (service.sessions who) bindings template
  | evaluateAlone bindings template =>
      exact labelled.evaluateIn _ bindings template
  | explain who utterance =>
      exact labelled.explain (service.sessions who) utterance
  | learn who candidate =>
      exact labelled.learn candidate (service.sessions who)
  | unlearn who candidate =>
      exact labelled.unlearn candidate (service.sessions who)
  | reload categories =>
      exact labelled.reload categories
  | clearCaches =>
      exact labelled.clearCaches

theorem labelled_happen
    {label : Text}
    {service : Service ι}
    (labelled : service.interpreter.Labelled label)
    (event : Event ι) :
    (service.happen event).interpreter.Labelled label := by
  cases event with
  | ask operation =>
      exact labelled_perform labelled operation
  | edit edit =>
      exact labelled.withKnowledge (.edit service.interpreter.knowledge edit)
  | clear who =>
      exact labelled
  | wait pauses =>
      exact ⟨labelled.name, ⟨labelled.selector.patterns, labelled.selector.verdicts⟩,
        labelled.variableCache⟩

/-- Whatever happened, the label is kept. -/
theorem labelled_after
    {label : Text}
    {service : Service ι}
    (labelled : service.interpreter.Labelled label)
    (history : List (Event ι)) :
    (service.after history).interpreter.Labelled label := by
  induction history generalizing service with
  | nil =>
      exact labelled
  | cons event rest inductionHypothesis =>
      exact inductionHypothesis (labelled_happen labelled event)

/--
Whatever happens, the knowledge base keeps its name, and every variable, pattern and
match that is remembered is stored under it. Right after the rules are reloaded all
four caches are empty.
-/
theorem after_reloadForgetsAll
    (knowledge : KnowledgeBase)
    (settings : Settings)
    (picks : List Nat)
    (sessions : ι → Session)
    (history : List (Event ι)) :
    let interpreter := ((new knowledge settings picks sessions).after history).interpreter
    interpreter.knowledge.name = knowledge.name ∧
      Cache.Tagged interpreter.variableCache knowledge.name ∧
      interpreter.selector.patterns.Tagged knowledge.name ∧
      interpreter.selector.verdicts.Tagged knowledge.name ∧
      ∀ categories, (interpreter.reload categories).RemembersNothing := by
  intro interpreter
  have labelled : interpreter.Labelled knowledge.name :=
    labelled_after (Interpreter.remembersNothing_new knowledge settings picks).labelled history
  exact ⟨labelled.name, labelled.variableCache, labelled.selector.patterns,
    labelled.selector.verdicts, labelled.remembersNothing_reload⟩

/-- A guest that is welcomed leaves something in every cache. -/
example :
    let interpreter :=
      ((hostService.after visit).interpreter.evaluateIn guest ⟨["who".toList], [], []⟩ welcome).2.2
    interpreter.variableCache.entries.map (·.tag) = [some "host".toList] ∧
      interpreter.selector.patterns.entries.map (·.tag) = [some "host".toList] ∧
      interpreter.selector.verdicts.entries.map (·.tag) = [some "host".toList] ∧
      interpreter.templates.cache.size = 3 := by
  decide +kernel

end Service

end Colloquy
