import SheepContabil.Spec.Masks
import SheepContabil.Spec.Sc06Rules

/-!
# SC-06: the page of a briefing

The form of `sc06_form.html` reads its controls at each input event. Other handlers of the page then
change some of them, and the form does not read them again: the mask of `app.js` formats
`current_cnpj`, and `:value` writes back what the form has read of `married_partner_name`, a text
input even where the question is boolean.

* `Page`: what the form has read of each control, and what the control holds since.
* `Page.typed`: the page after the input events.
-/

namespace SheepContabil.SC06

/-- The controls as `syncFromDom` has read them, and as they are. -/
structure Page where
  seen : Controls
  held : Controls

/-- What the control of a question keeps of a masked text: a select only the value of an option, and
a date input nothing, since the mask writes no date. -/
def Question.keepsMasked (q : Question) (value : Text) : Text :=
  match q.type with
  | .boolean => if value == "true".toList || value == "false".toList then value else []
  | .choice => if q.options.any (·.value == value) then value else []
  | .date => []
  | _ => value

/-- `answers[id] || ''` of the text input of `married_partner_name`. -/
def boundValue : Option Answer → Text
  | some (.bool true) => "true".toList
  | some (.text t) => t
  | _ => []

/-- What the control of a question holds, once the form has read these. -/
def Question.heldAfter (typed : Controls) (q : Question) : Text :=
  if q.id = "current_cnpj".toList then q.keepsMasked (AppJs.formatDocument (typed q.id))
  else if q.id = "married_partner_name".toList then boundValue (syncFromDom typed q)
  else typed q.id

/-- The page after input events that the form has read as these texts. -/
def Page.typed (schema : Schema) (typed : Controls) : Page where
  seen := typed
  held := fun i => ((schema.questions.find? fun q => q.id == i).map (·.heldAfter typed)).getD (typed i)

end SheepContabil.SC06
