import ImageDiscovery.App.Notation

/-!
# Tag — names that move from version to version

A tag such as `latest` stands for labels.  Tag data is a table of aliases, from tag to tag, and a
table of label sets; a tag is resolved by following aliases to a tag that has none.
-/

namespace ImageDiscovery

/-- Aliases and label sets; every label set is a valid one. -/
structure TagData where
  aliases : Mapping Text
  labels : Mapping (Mapping Text)
  labels_ok : checkLabelSets labels = none
deriving DecidableEq

namespace TagData

/-- Checks the label sets, in their order. -/
def make? (aliases : Mapping Text) (labels : Mapping (Mapping Text)) : Except Rejection TagData :=
  match h : checkLabelSets labels with
  | none => .ok ⟨aliases, labels, h⟩
  | some rejection => .error rejection

/-- The way from a tag along the aliases: to a tag without one, or back to a tag passed before. -/
inductive Route where
  | ends (tag : Text)
  /-- The tags in the order they were met; the last one was met before. -/
  | circles (chain : List Text)
deriving DecidableEq

/-- Follows aliases from `tag`; `passed` are the tags met so far, `tag` the last of them.  As each
step passes an alias not passed before, as many steps as there are aliases and one more suffice. -/
def follow (aliases : Mapping Text) (passed : List Text) (tag : Text) : Nat → Route
  | 0 => .circles passed
  | steps + 1 =>
    match aliases.get? tag with
    | none => .ends tag
    | some next =>
      if next ∈ passed then .circles (passed ++ [next])
      else follow aliases (passed ++ [next]) next steps

def route (data : TagData) (tag : Text) : Route :=
  follow data.aliases [tag] tag (data.aliases.size + 1)

/-- The labels of the tag where the aliases end, if it has any; or the circle they make. -/
def resolve (data : TagData) (tag : Text) : Except (List Text) (Option (Mapping Text)) :=
  match data.route tag with
  | .ends last => .ok (data.labels.get? last)
  | .circles chain => .error chain

end TagData

inductive TagProblem where
  | circular (tag : Text) (chain : List Text)
  /-- The tag would be the version, but there is one. -/
  | versionTaken (tag version : Text)
deriving DecidableEq

/-- The labels with those of a tag added.  Labels that are there keep their values; without tag
data the tag is the version; an empty tag or none adds nothing. -/
def mergeTag (labels : Mapping Text) (data : Option TagData) (tag : Option Text) :
    Except TagProblem (Mapping Text) :=
  match tag.filter (!·.isEmpty) with
  | none => .ok labels
  | some tag =>
    match data with
    | none =>
      match labels.get? versionLabel with
      | some version => .error (.versionTaken tag version)
      | none => .ok (labels.insert versionLabel tag)
    | some data =>
      match data.resolve tag with
      | .error chain => .error (.circular tag chain)
      | .ok none => .ok labels
      | .ok (some found) =>
        .ok (found.toList.foldl (fun merged (label, value) => merged.insertNew label value) labels)

end ImageDiscovery
