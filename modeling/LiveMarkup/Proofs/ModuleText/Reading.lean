import LiveMarkup.ModuleText
import LiveMarkup.Proofs.Json.Quoting

/-!
Reading generated modules. One reader takes a module apart: the fixed words are skipped, and every
literal between them is read as a JSON string.
-/

namespace LiveMarkup.ModuleText

/-- The text literal behind some fixed words, and what follows it. -/
def literal? (words t : Text) : Option (Text × Text) := do
  match ← Text.after? words t with
  | '"' :: t =>
    let (literal, rest) ← Json.readString t
    return (← literal, rest)
  | _ => none

/-- Whether a text consists of some fixed words. -/
def ends (words t : Text) : Bool :=
  Text.after? words t == some []

/-- The subscription that a text consists of. -/
def subscription? (t : Text) : Option Subscription := do
  let (client, t) ← literal? "\nrequire(".toList t
  let (key, t) ← literal? ").on(".toList t
  if ends ", function(src) \x7b module.exports.update(src)\x7d)".toList t then some ⟨client, key⟩
  else none

/-- What a module says. -/
def read? (t : Text) : Option ModuleText := do
  let (runtime, t) ← literal? "module.exports = (require(".toList t
  let (src, t) ← literal? "))(".toList t
  if ends ");".toList t then some ⟨runtime, src, none⟩
  else
    let s ← subscription? (← Text.after? ");".toList t)
    return ⟨runtime, src, some s⟩

theorem literal?_quote (words t rest : Text) :
    literal? words (words ++ (Json.quote t ++ rest)) = some (t, rest) := by
  have quoted : Json.quote t ++ rest = '"' :: (t.flatMap Json.escape ++ '"' :: rest) := by
    simp [Json.quote]
  rw [literal?, Text.after?_append, quoted]
  simp only [Json.readString_escape, Option.bind_eq_bind, Option.bind_some, Option.pure_def]

theorem ends_append (words rest : Text) : ends words (words ++ rest) = rest.isEmpty := by
  rw [ends, Text.after?_append]
  cases rest <;> rfl

theorem subscription?_render (s : Subscription) :
    subscription? (renderSubscription s) = some s := by
  have closed := ends_append ", function(src) \x7b module.exports.update(src)\x7d)".toList []
  rw [List.append_nil] at closed
  unfold renderSubscription
  simp only [List.append_assoc]
  simp only [subscription?, literal?_quote, closed, Option.bind_eq_bind, Option.bind_some,
    List.isEmpty_nil, if_true]

/-- A module is read as what it was written for. -/
theorem read?_render (m : ModuleText) : read? m.render = some m := by
  obtain ⟨runtime, src, subscription⟩ := m
  unfold render
  cases subscription with
  | none =>
    simp only [Option.map_none, Option.getD_none, List.append_assoc]
    simp only [read?, literal?_quote, ends_append, Option.bind_eq_bind, Option.bind_some,
      List.isEmpty_nil, if_true]
  | some s =>
    have more : (renderSubscription s).isEmpty = false := by
      unfold renderSubscription
      rfl
    simp only [Option.map_some, Option.getD_some, List.append_assoc]
    simp only [read?, literal?_quote, ends_append, more, Text.after?_append, subscription?_render,
      Option.bind_eq_bind, Option.bind_some, Option.pure_def, Bool.false_eq_true, if_false]

end LiveMarkup.ModuleText
