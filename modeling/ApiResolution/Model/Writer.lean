import ApiResolution.Model
import ApiResolution.Property.Writer
import ApiResolution.Schema.Writer

/-!
The JSON form of models.
-/

namespace ApiResolution

/-- The JSON form of a model. -/
def Model.toJson (m : Model) : Json :=
  objectOf [
    member "name" (.string m.name),
    member "classname" (.string m.className),
    optionalMember "title" .string m.title,
    optionalMember "description" .string m.description,
    member "vars" (listJson Property.toJson m.vars),
    member "all_vars" (listJson Property.toJson m.allVars),
    member "required_vars" (listJson .ofNat m.requiredVars),
    member "optional_vars" (listJson .ofNat m.optionalVars),
    member "read_only_vars" (listJson .ofNat m.readOnlyVars),
    member "read_write_vars" (listJson .ofNat m.readWriteVars),
    optionalMember "parent" .string m.parent,
    optionalMember "parent_model" .string m.parentModel,
    member "children" (.strings m.children),
    member "interfaces" (.strings m.interfaces),
    member "interface_models" (.strings m.interfaceModels),
    optionalMember "discriminator" Discriminator.toJson m.discriminator,
    member "is_enum" (.bool m.isEnum),
    optionalMember "allowable_values" EnumValues.toJson m.enumValues,
    member "is_alias" (.bool m.isAlias),
    member "is_composed_model" (.bool m.isComposed),
    member "is_array_model" (.bool m.isArray),
    member "is_map_model" (.bool m.isMap),
    optionalMember "container_property" Property.toJson m.containerProperty,
    optionalMember "container_instantiation" .string m.containerInstantiation,
    optionalMember "array_model_type" .string m.arrayItemType,
    optionalMember "data_type" .string m.dataType,
    listMember "model_names" .string m.alternatives,
    member "has_vars" (.bool m.hasVars),
    member "has_enums" (.bool m.hasEnums),
    member "has_required" (.bool m.hasRequired),
    member "has_optional" (.bool m.hasOptional),
    member "has_only_read_only" (.bool m.hasOnlyReadOnly),
    member "is_nullable" (.bool m.isNullable),
    member "imports" (.strings m.imports),
    textMember "model_json" m.schemaText,
    entriesMember "extensions" id m.extensions]

end ApiResolution
