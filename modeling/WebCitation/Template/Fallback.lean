import WebCitation.Template.Rules

/-! Fallbacks: templates without a path, for pages that no other template fits. -/
namespace WebCitation

abbrev FallbackTemplate := TemplateRules

namespace FallbackTemplate

def ofDefinition (domain : String) (d : Definition.Fallback) : FallbackTemplate :=
  ⟨domain.asciiLower, d.label, FieldSet.ofDefinitions d.fields⟩

def toDefinition (t : FallbackTemplate) : Definition.Fallback := ⟨t.label, t.fieldDefinitions⟩

def citoidField (name : FieldName) (key : String) (transformations : List Definition.Transformation) :
    Definition.Field :=
  ⟨name.text, [⟨[⟨"citoid", key⟩], transformations⟩], name.isForceRequired⟩

/-- Takes the citation over as it comes, with its date in ISO form. -/
def citoidDefinition : Definition.Fallback :=
  ⟨some "Citoid",
    [citoidField .itemType "itemType" [], citoidField .title "title" [],
      citoidField .authorFirst "authorFirst" [], citoidField .authorLast "authorLast" [],
      citoidField .date "date" [⟨"date", "", none⟩],
      citoidField .publishedIn "publicationTitle" [], citoidField .publishedBy "publisher" [],
      citoidField .language "language" []]⟩

def citoidDefault (domain : String) : FallbackTemplate := ofDefinition domain citoidDefinition

def reading (t : FallbackTemplate) (target : Webpage) : Reading TemplateOutput :=
  TemplateRules.reading t none target

end FallbackTemplate
end WebCitation
