import ApiResolution.Identifier
import ApiResolution.Uri.DomainLabel

/-!
Domain names. All spellings of one name have one normal form: its labels in the characters that they
stand for, composed and without characters that do not count.
-/

namespace ApiResolution
namespace DomainName

open Identifier (splitWhere)

/-- The labels with dots between them. -/
def join (labels : List (List Char)) : List Char := ['.'].intercalate labels

/-- Whether the labels may stand in one name: if one of them has letters that run from right to
left, the direction rule holds for all. -/
def labelsFit (labels : List (List Char)) : Bool :=
  labels.all DomainLabel.hasOneDirection ||
    !(labels.any fun label => label.any DomainLabel.runsLeftward)

/-- The normal form of a domain name, if the text is one. -/
def normalize? (cs : List Char) : Option (List Char) := do
  let targets ← cs.mapM DomainCharacter.target?
  let labels ← (splitWhere (· == '.') (Text.compose targets.flatten)).mapM DomainLabel.read?
  if labelsFit labels then some (join labels) else none

end DomainName
end ApiResolution
