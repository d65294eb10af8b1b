import Colloquy.Cache.Agreement
import Colloquy.Markup.Tree

namespace Colloquy

/-!
# Templates that have been read

Templates are read again and again, so their trees are remembered. What is
remembered under a text is always the tree of that text.
-/

/-- Trees remembered under the texts that they were read from. -/
structure TemplateCache where
  cache : Cache Text (List Markup.Node)
  agrees : cache.Agrees Markup.parse

namespace TemplateCache

/-- Nothing is remembered. -/
def ofSettings (settings : CacheSettings) : TemplateCache :=
  ⟨Cache.ofSettings "templates".toList settings, Cache.agrees_ofSettings _ _ _⟩

/-- Drop all that was remembered. -/
def clear (templates : TemplateCache) : TemplateCache :=
  ⟨templates.cache.clear, Cache.agrees_clear _ _⟩

/-- The tree of a text, remembered or read. -/
def fetch
    (templates : TemplateCache)
    (text : Text) :
    List Markup.Node × TemplateCache :=
  ((templates.cache.lookupOrInsert text none fun _ => Markup.parse text).1,
    ⟨(templates.cache.lookupOrInsert text none fun _ => Markup.parse text).2,
      templates.agrees.lookupOrInsert text none⟩)

/-- What is fetched is the tree of the text. -/
theorem fetch_nodes
    (templates : TemplateCache)
    (text : Text) :
    (templates.fetch text).1 = Markup.parse text :=
  templates.agrees.lookupOrInsert_value text none

end TemplateCache

end Colloquy
