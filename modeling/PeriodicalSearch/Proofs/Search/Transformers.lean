import PeriodicalSearch.Resource.Settings

/-! What holds of every transformer of a profile. It is shown registration by registration, and used
for the transformer that a look-up finds. The collections rename columns, and register few functions
of their own, which make a predicate of every text. -/

namespace PeriodicalSearch

namespace SearchProfile

variable {property : Transformer → Prop} {profile : SearchProfile}

structure Every (property : Transformer → Prop) (profile : SearchProfile) : Prop where
  term : ∀ transformer ∈ profile.termTransformer, property transformer
  field : ∀ entry ∈ profile.transformers, property entry.2

theorem every_ofFields (fields : List String) : (ofFields fields).Every property :=
  ⟨fun _ none => (nomatch none), fun _ none => (nomatch none)⟩

theorem Every.register (every : profile.Every property) (field : String)
    {transformer : Transformer} (holds : property transformer) :
    (profile.register field transformer).Every property := by
  unfold SearchProfile.register
  split
  next =>
    refine ⟨fun other same => ?_, every.field⟩
    cases same
    exact holds
  next => exact ⟨every.term, List.forall_mem_cons.2 ⟨holds, every.field⟩⟩

theorem Every.of_transformer? (every : profile.Every property) {field : String}
    {transformer : Transformer} (found : profile.transformer? field = some transformer) :
    property transformer := by
  obtain ⟨before, after, entries, -⟩ := List.lookup_eq_some_iff.1 found
  exact every.field (field, transformer) (entries ▸ List.mem_append_right _ List.mem_cons_self)

end SearchProfile

/-- The functions that a collection registers in the place of the usual comparison. -/
inductive Resource.Makes : Resource → (String → Predicate) → Prop
  | code : Makes .issues Issue.codePredicate
  | number (column : String) : Makes .issues (Issue.numberPredicate column)
  | status : Makes .articles Article.statusPredicate
  | role : Makes .users Role.predicate

open SearchProfile in
theorem Resource.every_of_makes {property : Transformer → Prop} (resource : Resource)
    (column : ∀ name, property (.column name))
    (function : ∀ made, resource.Makes made → property (.function fun text => .ok (made text))) :
    resource.searchProfile.Every property := by
  cases resource with
  | issues =>
    rw [searchProfile, Issue.searchProfile]
    exact (every_ofFields _)
      |>.register _ (function _ .code)
      |>.register _ (function _ .code)
      |>.register _ (function _ (.number "volume_num"))
      |>.register _ (function _ (.number "issue_num"))
      |>.register _ (column "publish_date")
  | articles =>
    rw [searchProfile, Article.searchProfile]
    exact (every_ofFields _)
      |>.register _ (column "author")
      |>.register _ (column "published_at")
      |>.register _ (function _ .status)
  | users =>
    rw [searchProfile, User.searchProfile]
    exact (every_ofFields _).register _ (function _ .role)

end PeriodicalSearch
