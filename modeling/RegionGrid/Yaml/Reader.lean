import RegionGrid.Value
import RegionGrid.Yaml.Fault

/-!
# Readers

All that loading a layout needs of YAML: the value that a text or a file stands for, or why there is
none, as a function of the text or of the bytes in the file.
-/

namespace RegionGrid.Yaml

structure Reader where
  text : String → Except Fault Value
  file : List UInt8 → Except Fault Value

end RegionGrid.Yaml
