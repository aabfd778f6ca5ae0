import EndpointMonitor.Character.Runs

/-!
# What a reader takes for one character

The value says with which neighbours a character makes up what a reader takes for one.
-/

namespace EndpointMonitor.GraphemeBreak

/-- The names of the values and their labels. -/
def names : List (String × String) := [
  ("cn", "CN"), ("control", "CN"), ("cr", "CR"), ("ex", "EX"), ("extend", "EX"), ("l", "L1"),
  ("lf", "LF"), ("lv", "LV"), ("lvt", "LT"), ("pp", "PP"), ("prepend", "PP"),
  ("regionalindicator", "RI"), ("ri", "RI"), ("sm", "SM"), ("spacingmark", "SM"), ("t", "T1"),
  ("v", "V1"), ("zwj", "ZJ")]

/-- The runs of one value. Most characters have the value `XX`, which has no name. -/
def table : List String := [
  "aCN1LF2CN1CR12CN5fXX21CNdXX1CN252XX70EX113XX7EX107XX2dEX1XX1EX1XX2EX1XX2EX1XX1EX38XX6PPaXXbEX",
  "1XX1CN2eXX15EX10XX1EX65XX7EX1PP1XX6EX2XX2EX1XX4EX21XX1PP1XX1EX1eXX1bEX5bXXbEX3aXX9EX9XX1EX18XX",
  "4EX1XX9EX1XX3EX1XX5EX2bXX3EX34XX2PP5XX9EX2aXX18EX1PP20EX1SM36XX1EX1SM1EX1XX3SM8EX4SM1EX2SM1XX",
  "7EXaXX2EX1dXX1EX2SM38XX1EX1XX1EX2SM4EX2XX2SM2XX2SM1EX9XX1EXaXX2EX1aXX1EX2XX2EX1SM38XX1EX1XX3SM",
  "2EX4XX2EX2XX3EX3XX1EX1eXX2EX3XX1EXbXX2EX1SM38XX1EX1XX3SM5EX1XX2EX1SM1XX2SM1EX14XX2EX16XX6EX1XX",
  "1EX2SM38XX1EX1XX2EX1SM4EX2XX2SM2XX2SM1EX7XX3EXaXX2EX1eXX1EX3bXX1EX1SM1EX2SM3XX3SM1XX3SM1EX9XX",
  "1EX28XX1EX3SM1EX37XX1EX1XX3EX4SM1XX3EX1XX4EX7XX2EXbXX2EX1dXX1EX2SM38XX1EX1XX1SM2EX1SM1EX2SM1XX",
  "3EX1XX4EX7XX2EXbXX2EXfXX1SMcXX2EX2SM37XX2EX1XX1EX2SM4EX1XX3SM1XX3SM1EX1PP8XX1EXaXX2EX1dXX1EX",
  "2SM46XX1EX4XX1EX2SM3EX1XX1EX1XX7SM1EX12XX2SM3dXX1EX1XX1SM7EXcXX8EX62XX1EX1XX1SM9EXbXX7EX49XX",
  "2EX1bXX1EX1XX1EX1XX1EX4XX2SM31XXeEX1SM5EX1XX2EX5XXbEX1XX24EX9XX1EX66XX4EX1SM6EX1XX2EX2SM2EX",
  "17XX2SM2EX4XX3EX10XX4EXdXX1EX1XX1SM2EX6XX1EXfXX1EX62XX60L148V158T115dXX3EX3b2XX4EX1cXX3EX1dXX",
  "2EX1eXX2EX40XX2EX1SM7EX8SM1EX2SMbEX9XX1EX2dXX3EX1CN1EX75XX2EX22XX1EX76XX3EX4SM2EX3SM4XX2SM1EX",
  "6SM3EXdbXX2EX2SM1EX39XX1SM1EX1SM7EX1XX1EX1XX1EX2XX8EX6SMaEX2XX1EX30XX1fEX31XX4EX1SM2fXXaEX4SM",
  "3EX26XX9EXcXX2EX1SM1eXX1SM4EX2SM6EX38XX1EX1SM2EX3SM1EX1SM5EX30XX8SM8EX2SM2EX98XX3EX1XXdEX1SM",
  "7EX4XX1EX6XX1EX2XX1SM2EXc6XX40EX20bXX1CN1EX1ZJ2CN18XX7CN31XX10CN60XX21EXbfeXX3EX8dXX1EX60XX",
  "20EX22aXX6EX69XX2EX75d4XX4EX1XXaEX20XX2EX50XX2EX110XX1EX3XX1EX4XX1EX17XX2SM2EX1SM4XX1EX53XX2SM",
  "32XX10SM2EX1aXX12EXdXX1EX26XX8EX19XXbEX1SM1EXcXX1dL13XX3EX1SM2fXX1EX2SM4EX2SM2EX2SM1EX24XX1EX",
  "43XX6EX2SM2EX2SM2EXcXX1EX8XX1EX1SM2eXX1EX33XX1EX1XX3EX2XX2EX5XX2EX1XX1EX29XX1SM2EX2SM5XX1SM1EX",
  "ecXX2SM1EX2SM1EX2SM1XX1SM1EX12XX1LV1bLT1LV1bLT1LV1bLT1LV1bLT1LV1bLT1LV1bLT1LV1bLT1LV1bLT1LV",
  "1bLT1LV1bLT1LV1bLT1LV1bLT1LV1bLT1LV1bLT1LV1bLT1LV1bLT1LV1bLT1LV1bLT1LV1bLT1LV1bLT1LV1bLT1LV",
  "1bLT1LV1bLT1LV1bLT1LV1bLT1LV1bLT1LV1bLT1LV1bLT1LV1bLT1LV1bLT1LV1bLT1LV1bLT1LV1bLT1LV1bLT1LV",
  "1bLT1LV1bLT1LV1bLT1LV1bLT1LV1bLT1LV1bLT1LV1bLT1LV1bLT1LV1bLT1LV1bLT1LV1bLT1LV1bLT1LV1bLT1LV",
  "1bLT1LV1bLT1LV1bLT1LV1bLT1LV1bLT1LV1bLT1LV1bLT1LV1bLT1LV1bLT1LV1bLT1LV1bLT1LV1bLT1LV1bLT1LV",
  "1bLT1LV1bLT1LV1bLT1LV1bLT1LV1bLT1LV1bLT1LV1bLT1LV1bLT1LV1bLT1LV1bLT1LV1bLT1LV1bLT1LV1bLT1LV",
  "1bLT1LV1bLT1LV1bLT1LV1bLT1LV1bLT1LV1bLT1LV1bLT1LV1bLT1LV1bLT1LV1bLT1LV1bLT1LV1bLT1LV1bLT1LV",
  "1bLT1LV1bLT1LV1bLT1LV1bLT1LV1bLT1LV1bLT1LV1bLT1LV1bLT1LV1bLT1LV1bLT1LV1bLT1LV1bLT1LV1bLT1LV",
  "1bLT1LV1bLT1LV1bLT1LV1bLT1LV1bLT1LV1bLT1LV1bLT1LV1bLT1LV1bLT1LV1bLT1LV1bLT1LV1bLT1LV1bLT1LV",
  "1bLT1LV1bLT1LV1bLT1LV1bLT1LV1bLT1LV1bLT1LV1bLT1LV1bLT1LV1bLT1LV1bLT1LV1bLT1LV1bLT1LV1bLT1LV",
  "1bLT1LV1bLT1LV1bLT1LV1bLT1LV1bLT1LV1bLT1LV1bLT1LV1bLT1LV1bLT1LV1bLT1LV1bLT1LV1bLT1LV1bLT1LV",
  "1bLT1LV1bLT1LV1bLT1LV1bLT1LV1bLT1LV1bLT1LV1bLT1LV1bLT1LV1bLT1LV1bLT1LV1bLT1LV1bLT1LV1bLT1LV",
  "1bLT1LV1bLT1LV1bLT1LV1bLT1LV1bLT1LV1bLT1LV1bLT1LV1bLT1LV1bLT1LV1bLT1LV1bLT1LV1bLT1LV1bLT1LV",
  "1bLT1LV1bLT1LV1bLT1LV1bLT1LV1bLT1LV1bLT1LV1bLT1LV1bLT1LV1bLT1LV1bLT1LV1bLT1LV1bLT1LV1bLT1LV",
  "1bLT1LV1bLT1LV1bLT1LV1bLT1LV1bLT1LV1bLT1LV1bLT1LV1bLT1LV1bLT1LV1bLT1LV1bLT1LV1bLT1LV1bLT1LV",
  "1bLT1LV1bLT1LV1bLT1LV1bLT1LV1bLT1LV1bLT1LV1bLT1LV1bLT1LV1bLT1LV1bLT1LV1bLT1LV1bLT1LV1bLT1LV",
  "1bLT1LV1bLT1LV1bLT1LV1bLT1LV1bLT1LV1bLT1LV1bLT1LV1bLT1LV1bLT1LV1bLT1LV1bLT1LV1bLT1LV1bLT1LV",
  "1bLT1LV1bLT1LV1bLT1LV1bLT1LV1bLT1LV1bLT1LV1bLT1LV1bLT1LV1bLT1LV1bLT1LV1bLT1LV1bLT1LV1bLT1LV",
  "1bLT1LV1bLT1LV1bLT1LV1bLT1LV1bLT1LV1bLT1LV1bLT1LV1bLT1LV1bLT1LV1bLT1LV1bLT1LV1bLT1LV1bLT1LV",
  "1bLT1LV1bLT1LV1bLT1LV1bLT1LV1bLT1LV1bLT1LV1bLT1LV1bLT1LV1bLT1LV1bLT1LV1bLT1LV1bLT1LV1bLT1LV",
  "1bLT1LV1bLT1LV1bLT1LV1bLT1LV1bLT1LV1bLT1LV1bLT1LV1bLT1LV1bLT1LV1bLT1LV1bLT1LV1bLT1LV1bLT1LV",
  "1bLT1LV1bLT1LV1bLT1LV1bLT1LV1bLT1LV1bLT1LV1bLT1LV1bLT1LV1bLT1LV1bLT1LV1bLT1LV1bLT1LV1bLT1LV",
  "1bLT1LV1bLT1LV1bLT1LV1bLT1LV1bLT1LV1bLT1LV1bLT1LV1bLT1LV1bLT1LV1bLT1LV1bLT1LV1bLT1LV1bLT1LV",
  "1bLT1LV1bLT1LV1bLT1LV1bLT1LV1bLT1LV1bLT1LV1bLT1LV1bLT1LV1bLT1LV1bLT1LV1bLT1LV1bLT1LV1bLT1LV",
  "1bLT1LV1bLT1LV1bLT1LV1bLT1LV1bLT1LV1bLT1LV1bLT1LV1bLT1LV1bLT1LV1bLT1LV1bLT1LV1bLT1LV1bLT1LV",
  "1bLT1LV1bLT1LV1bLT1LV1bLT1LV1bLT1LV1bLT1LV1bLT1LV1bLT1LV1bLT1LV1bLT1LV1bLT1LV1bLT1LV1bLT1LV",
  "1bLT1LV1bLT1LV1bLT1LV1bLT1LV1bLT1LV1bLT1LV1bLT1LV1bLT1LV1bLT1LV1bLT1LV1bLT1LV1bLT1LV1bLT1LV",
  "1bLT1LV1bLT1LV1bLT1LV1bLT1LV1bLT1LV1bLT1LV1bLT1LV1bLT1LV1bLT1LV1bLT1LV1bLT1LV1bLT1LV1bLT1LV",
  "1bLT1LV1bLT1LV1bLT1LV1bLT1LV1bLT1LV1bLT1LV1bLT1LV1bLT1LV1bLT1LV1bLT1LV1bLT1LV1bLT1LV1bLT1LV",
  "1bLT1LV1bLT1LV1bLT1LV1bLT1LV1bLT1LV1bLT1LV1bLT1LV1bLT1LV1bLT1LV1bLT1LV1bLT1LV1bLT1LV1bLT1LV",
  "1bLT1LV1bLT1LV1bLT1LV1bLT1LV1bLT1LV1bLT1LV1bLT1LV1bLT1LV1bLT1LV1bLT1LV1bLT1LV1bLT1LV1bLT1LV",
  "1bLTcXX17V14XX31T12322XX1EX2e1XX10EX10XX10EXcfXX1CN9eXX2EX50XXcCN201XX1EXe2XX1EX95XX5EX686XX",
  "3EX1XX2EX5XX4EX28XX3EX4XX1EXa5XX2EX23dXX4EX41XX5EX13dXX2EX4fXX4EX46XXbEX31XX4EX7aXX1SM1EX1SM",
  "35XXfEX29XX1EX2XX2EXaXX3EX1SM2dXX3SM4EX2SM2EX2XX1PP4XX1EXaXX1PP32XX3EX24XX5EX1SM8EX10XX2SM2cXX",
  "1EXcXX2EX1SM30XX3SM9EX1SM1EX1XX2PP5XX4EX1XX1SM1EX5cXX3SM3EX2SM4EX6XX1EX2XX1EX9dXX1EX3SM8EX15XX",
  "2EX2SM37XX2EX1XX1EX1SM1EX4SM2XX2SM2XX2SM1EX9XX1EXaXX2SM2XX7EX3XX5EX43XX1EX2SM6EX1XX1EX2XX1EX",
  "1XX3EX1SM1XX2SM3EX1PP1EXeXX2EX52XX3SM8EX2SM3EX1SM1EX17XX1EX51XX1EX2SM6EX1SM1EX2SM1EX1SM2EX1SM",
  "2EXebXX1EX2SM4EX2XX4SM2EX1SM2EX1bXX2EX52XX3SM8EX2SM1EX1SM2EX6aXX1EX1SM1EX2SM8EX65XX1EX1SM1EX",
  "2XX4EX1SM5EX100XX3SM9EX1SM2EXf5XX1EX5SM1XX2SM2XX4EX1PP1SM1PP1SM1EX8dXX3SM4EX2XX2EX4SM1EX3XX1SM",
  "1cXXaEX28XX6EX1SM1PP4EX8XX1EX9XX6EX2SM3EX28XX6PPdEX1SM2EX195XX1SM7EX1XX6EX1SM1EX52XX16EX1XX1SM",
  "7EX1SM2EX1SM2EX7aXX6EX3XX1EX1XX2EX1XX7EX1PP1EX42XX5SM1XX2EX1XX2SM1EX1SM1EX15bXX2EX2SM9XX2EX1PP",
  "1SM30XX2SM5EX3XX2SM3EX17XX1EX14d5XX10CN1EX6XXfEX2cc8XXcEX3SM3EX9c0XX5EX3bXX7EX22cXX1V13XX4V1",
  "1e4XX1EX1XX37SM7XX4EX51XX1EXbXX2EX4cabXX2EX1XX4CN125cXX2eEX2XX17EX21eXX5EX3XX6EX8CN8EX2XX7EX",
  "1eXX4EX94XX3EX7bbXX37EX4XX32EX8XX1EXeXX1EX16XX5EX1XXfEX550XX7EX1XX11EX2XX7EX1XX2EX1XX5EX64XX",
  "1EXa0XX7EX177XX1EX3dXX4EX1fcXX4EXfeXX2EX2e0XX7EX6dXX7EX89bXX1aRI1fbXX5EXc0c00XX20CN60EX80CN",
  "f0EXe10CN2f000XX"]

/-- The characters with a value, by its name. -/
def ofName? (name : String) : Option CodeSet :=
  Run.named? names (Run.ofTable 2 table) name

end EndpointMonitor.GraphemeBreak
