import AiGateway.Lib.Fallible
import Mathlib.Logic.Relation

/- Lists with items that a reader skips: edits of those items alone, and what no such edit
   changes. Two runs of one reader are compared through the items that both of them see. -/
namespace HiddenItems

variable {α β ε : Type} (hidden : α → Bool)

/-- One edit of a hidden item, at any place. -/
inductive Edit : List α → List α → Prop
  | insert (before after : List α) (a : α) (h : hidden a = true) : Edit (before ++ after) (before ++ a :: after)
  | remove (before after : List α) (a : α) (h : hidden a = true) : Edit (before ++ a :: after) (before ++ after)
  | change (before after : List α) (a b : α) (ha : hidden a = true) (hb : hidden b = true) :
      Edit (before ++ a :: after) (before ++ b :: after)

/-- Any number of such edits, one after the other. -/
def Edited : List α → List α → Prop := Relation.ReflTransGen (Edit hidden)

def visible (items : List α) : List α := items.filter fun a => !hidden a

variable {hidden}

theorem visible_hidden_cons {a : α} (h : hidden a = true) (items : List α) :
    visible hidden (a :: items) = visible hidden items := by
  simp [visible, h]

theorem visible_append (before after : List α) :
    visible hidden (before ++ after) = visible hidden before ++ visible hidden after :=
  List.filter_append before after

theorem Edit.visible_eq {xs ys : List α} (h : Edit hidden xs ys) : visible hidden xs = visible hidden ys := by
  cases h with
  | insert before after a ha => rw [visible_append, visible_append, visible_hidden_cons ha]
  | remove before after a ha => rw [visible_append, visible_append, visible_hidden_cons ha]
  | change before after a b ha hb =>
    rw [visible_append, visible_append, visible_hidden_cons ha, visible_hidden_cons hb]

theorem Edited.visible_eq {xs ys : List α} (h : Edited hidden xs ys) :
    visible hidden xs = visible hidden ys := by
  induction h with
  | refl => rfl
  | tail _ hedit ih => exact ih.trans hedit.visible_eq

/-- A reader that gets nothing from a hidden item gets from a list what it gets from the items
that it sees, also where one of those ends it. -/
theorem collect_visible {f : α → Except ε (List β)} (hf : ∀ a, hidden a = true → f a = .ok [])
    (items : List α) :
    (Fallible.collect f items).map List.flatten =
      (Fallible.collect f (visible hidden items)).map List.flatten := by
  induction items with
  | nil => rfl
  | cons a items ih =>
    have hcons : ∀ as, (Fallible.collect f (a :: as)).map List.flatten =
        (f a >>= fun bs => ((Fallible.collect f as).map List.flatten).map (bs ++ ·)) := by
      intro as
      cases ha : f a <;> cases has : Fallible.collect f as <;>
        simp [Fallible.collect, ha, has, bind, Except.bind, Except.map]
    rw [hcons, ih]
    cases ha : hidden a with
    | true =>
      rw [hf a ha, visible_hidden_cons ha]
      cases Fallible.collect f (visible hidden items) <;> rfl
    | false =>
      have hvisible : visible hidden (a :: items) = a :: visible hidden items := by simp [visible, ha]
      rw [hvisible, hcons]

theorem collect_edited {f : α → Except ε (List β)} (hf : ∀ a, hidden a = true → f a = .ok [])
    {xs ys : List α} (h : Edited hidden xs ys) :
    (Fallible.collect f xs).map List.flatten = (Fallible.collect f ys).map List.flatten := by
  calc (Fallible.collect f xs).map List.flatten
      = (Fallible.collect f (visible hidden xs)).map List.flatten := collect_visible hf xs
    _ = (Fallible.collect f (visible hidden ys)).map List.flatten := by rw [h.visible_eq]
    _ = (Fallible.collect f ys).map List.flatten := (collect_visible hf ys).symm

end HiddenItems
