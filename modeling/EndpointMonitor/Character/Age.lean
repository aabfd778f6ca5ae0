import EndpointMonitor.Character.Runs

/-!
# Ages of characters

The age of a character is the version of the standard that brought it in. In the table, a letter
stands for the first number of a version, `A` for one, and a digit for the second number.
-/

namespace EndpointMonitor.Age

/-- The versions. -/
def versions : List (Nat × Nat) := [
  (1, 1), (2, 0), (2, 1), (3, 0), (3, 1), (3, 2), (4, 0), (4, 1), (5, 0), (5, 1), (5, 2), (6, 0),
  (6, 1), (6, 2), (6, 3), (7, 0), (8, 0), (9, 0), (10, 0), (11, 0), (12, 0), (12, 1), (13, 0),
  (14, 0), (15, 0), (15, 1), (16, 0)]

/-- The runs of one age. What has not been brought in is labelled `Z0`. -/
def table : List String := [
  "1f6A14C01eA18C01C21D012C03D0bD1eE059A15C02D02fA11C0aA15C011D046A19C01C28D05D13D02A11C0dC24E1",
  "2A12E12Z01A13E01A11G04Z07A11Z01A11Z014A11Z02cA11E17A11C02C21A11C01A11C01A11C01A11C012A12C11C2",
  "5D04D11C0cA11C042A11C0cA11C029A11E12C02C24C035A12C22A12C22A12C21E01cA12C08A12D12A16E010C24E0",
  "10E12E22F08G01Z026A12Z07A11K027A11K01A11C02Z02G01F11Z011B01D1dB0aA11E09A11B03D18Z01bA14Z01K0",
  "5A1bZ04D01F11G05E11D11A19D05E11A11F31N01D11A11F01aA15E113A13C03D06D11F0eA12C248A12C05A11C0fA1",
  "1C01eA12D0aA15C01D0eC01Z01eC03D01bC02Z03D01eD112E131C01C2eZ03bE02Z03K02eE22Z0fE21Z01cF02Z01F0",
  "1Z0bJ05Z01fN01Z02N05Z01P08N01F11G0bF16G02H01N08I0aM0bN01K0fI01H01bF11G01E23A11D035A12F012A11E2",
  "1F05A11E22F019A12E15F01G02E22E01D12E01G03A11Z08A12Z02A12Z016A11Z07A11Z01A13Z04A12Z01A11D07A1",
  "2Z02A12Z03A11D18Z01A14Z02A11Z05A12Z015A11E22J01K02Z01D01A11D01Z06A14Z02A12Z016A11Z07A11Z02A1",
  "1Z02A11Z02A12Z01A11Z05A14Z02A12Z03A13Z01E17Z04A11Z01A17Z0fA11E11K0aZ03A11Z07A11D01A11Z03A11Z0",
  "16A11Z07A11Z02A11Z05A12Z0aA11Z03A11Z03A12Z01A1fZ01A13D02Z0aA11F11D07Z01H06J01Z03A11Z08A12Z02A1",
  "2Z016A11Z07A11Z02A11Z01D04A12Z08A11E12Z02A12Z03A17Z01M02A14Z02A11Z03A12E12Z0bA11D06F0aZ02A11Z0",
  "6A13Z03A11Z04A13Z02A11Z01A11Z02A13Z02A13Z03A13Z08A11D13A14Z05A13Z03A11Z04A12Z01E16Z01A1eZ01D1",
  "cA18D05Z01G03A11K08A11Z03A11Z017A11Z0aA11G05A12Z01N01E17A11Z03A11Z04A17Z02A11Z02E11H02Z01N02Z0",
  "2A12E12Z0aA17Z01L08E11I01G02A11K08A11Z03A11Z017A11Z0aA11Z05A12Z02D07A11Z03A11Z04A17Z02A16Z01N0",
  "1A11Z02A12E02Z0aA11Z02E01O0cZ01J01G02A11M08A11Z03A11Z017A11F010A11F02J01E16A11E11Z03A11Z04A1",
  "1F01I04Z03I01A17I01H02A12E12Z0aA16E13I07E11Z01M02C01Z012C03Z018C01Z09C01Z01C02Z07C03Z01C04Z0",
  "6C01Z01C01Z08C06Z0aG02Z03C0cZ03aA14Z01dA125Z02A11Z01A11Z01L02A11L01A11Z01L01A16L04A11L07A11L0",
  "3A11Z01A11Z01A12L02A11L0dA11L03A12Z05A11Z01A11Z06A11O01Z0aA12Z02A12F120Z048B01Z021B01C02E14Z0",
  "1bB04F06B01C01B01Z015B03C07B01C01B03C01Z0fC01Z01E11C02D13E14E22F025Z022C01E15C01E12C01E17C03E1",
  "4C06E11aC040E14E22E126A11Z01F15Z01F12Z027A12C22D11A11D13F15aA15E244A15E252A16E27C01D13fC01D1",
  "1C01Z04C02Z07C01Z01C01Z04C02Z027C01D11C01Z04C02Z01fC01D11C01Z04C02Z07C01Z01C01Z04C02Z07C01D1",
  "7C01Z017C01D11fC01D11C01Z04C02Z07C01D127C01D113C02Z02F02D11cC03Z01aD16Z055C01H02Z06H02Z01E2",
  "276C09E21dC03Z051C08G07Z0dC21N07C21N09Z01N017C29Z014C2cZ0dC21Z03C21Z02C2cZ05dC01D02Z0aC06Z0aD0",
  "6Z0fC01N0aC06Z058C01K07Z02aC01E15Z046E2aZ01dD02G01Z0cD04Z0cD04Z01D03Z02aD02Z05D0bZ02aD12E24Z0",
  "1aD16Z0aD11E23Z02D120D01cD12Z02D13fE21Z01dE22Z0bE26Z0aE26Z0eE22Z0fG02M0eN031Z04cE01N01Z02P0",
  "2dE02N01P02bE13F1cE16F134F08Z04F038E13Z0fE13Z033E19I02P05Z02bK02Z03K08F18Z023E24F11J02G01L05Z0",
  "6cD058D17E01cE1fG04J01N01I01F01E22E09bA11B04E15aA16E116A12Z06A12Z026A12Z06A12Z08A11Z01A11Z01A1",
  "1Z01A11Z01fA12Z035A11Z0fA11Z0eA12Z06A11Z013A12Z03A11Z09A11Z02fA11C017A11C26C05C22D02D11C27D1",
  "5C21E11Z04F37A11C22Z01bA11Z05D18F03Z0bA11B01B13C02C24D13E21F01F23G01H01J01N0fZ012A12C07C21D1",
  "4E01E1fZ039A12C01D01D1fC21D12E01E13E230A11C01E04E11E22H04Z05bA19C0cC2f2A1eC21A11C079A11C01C2",
  "1eC034C22D0bD1cE01E2bF07G04I01J025A12C03P016Z0bA115Z08bA114C21D096A1aC250A18C08C214A12D02C21D1",
  "1C056A12C0cC22D1aC28D0bD11E12E22D010D11E0aE13E24E1aE21F013E21F01E24F018E21G04A11F04A12F01cA1",
  "1F023A11F01A11F04A13F01A11E27A12F07A1eC21fA13F018A11F0eA11F07D14E01F11E11F12F01cC24E110C2100C0",
  "200C2eD06D17E05E14E029E13G05E15E21aG02Z020G01Z01M022G03K0cG01L08G01J019K04H0fK01L02fD11N02fD1",
  "1N0dE03E11E23E14E06E12E26bD17E22F15Z02dD11Z01F15Z01F12Z036D12F17Z01D11F0eZ01F017D19Z07D11Z07D1",
  "1Z07D11Z07D11Z07D11Z07D11Z07D11Z07D11Z020E118D14E12D113E11E2aF17G02I05J05K01L03M0bN022Z01aC0",
  "1Z059C0cZ0d6C01aZ0cC04O138A13C03C21C01A11Z054A12C22Z06A12C25eA11C25Z028A11E11J01K01Z05eA11Z0",
  "10A118C03F05M010D114E12P09Z01O110C21dA12D01Z024A1cE21D0fC21cA12D01D132A1fC2cA14D02fA11L177A1",
  "4D063A12D01fA11D019b6C0aM040D051a6A116D18E18E21F19H015J05K0dM03N048dC03Z012C02C210C01C2cC01C2",
  "3C01C21C09Z030E212cE114Z020E12F012E18F11cE16G01H01F158E28Z017D14E05E12E06bE12F01H02F02F1cG0aF0",
  "1F13G01I01K02G06H02K06L02N05L04M03P02Z02N01Z01N01Z05N03P015Z03N02M01G02F11F05E12cD11M03Z0aE2",
  "6Z038E08Z045E11I08Z0cE16Z01cE22H02K054E1bZ01E11dE23Z04eE21Z0bE24Z02E21fG01Z037E19Z0eE12Z0aE1",
  "2Z04E11cE24G043E218Z05E217F1aZ06F02Z06F02Z06F09Z07F01Z07F01Z030G04H02G02L04M04Z050H02eE22Z0aE2",
  "6Z02ba4B0cZ017E24Z031E2804Z01a2eA12F13bC23E22Z06aD126Z07A1cZ05A15Z01C019A11Z05A11Z01A11Z02A1",
  "1Z02A11Z06cA110F01N010Z016dA110N040A12Z036A17Z01N020C1cA11C21D02N010C2aD16Z04A13E17G02H015A1",
  "2C22D0aA11Z013A11Z04A14Z03A11C21A11Z087A12Z01A11Z05eA12C25eA13Z06A12Z06A12Z06A12Z03A13Z07A11Z0",
  "7A1aZ03C01B13A1cD01Z01aD01Z013D01Z02D01Z0fD02Z0eD022Z07bD05Z03D04Z02dD03Z09D04bD12G02I01Z0cE1",
  "1M03Z01G02fZ02eE182Z01dE13Z031E1fZ01cG04Z01fC11G04C19Z03J01bC15Z02bG05Z01eD01Z01D024D14Z0eD1",
  "2aZ026C12D026C150D02Z0aD06Z024I04Z024I04Z028G08Z034G0bZ01G0bN01Z0fN01Z07N01Z02N01Z0bN01Z0fN0",
  "1Z07N01Z02N03Z034P0cZ0137G09Z016G0aZ08G018Z06N01Z02aN01Z09N045Z06D02Z01D01Z02cD01Z02D03Z01D0",
  "2Z01D016E21Z09E23fG08Z09G030Z013H01Z02H05Z05H01aE02E23Z01E01aE15Z01E140Z038F14Z02H02F110H02Z0",
  "2eH04D11Z02D15Z08D11Z03D11Z01bD12K02Z03D14Z09D11K07Z09D17Z020E220G020Z027G04Z0cG09Z036E23Z0",
  "1dE22Z01bE25Z08E212G07Z04G0cZ07G050Z049E237Z033H0dZ033H07Z06H028K08Z0aK06Z026P03Z01dP08Z02P0",
  "d0Z01fE21Z02aM01Z03M02Z02M010Z03P037Z01P03O028K08Z02aK016Z01aN026Z01cM014Z017L09Z04eF04Z01eF0",
  "6N09Z01G042E21N0aZ01K02Z019F17Z0aF16Z035F11Z0eF13K01M08Z027G09Z049F14H01G02M0aF11G05H01Z014G0",
  "bZ012G01Z02bG01I03O03eZ07H01Z01H01Z04H01Z0fH01Z0bH06Z03bG05Z0aG06Z01H03G01Z08G02Z02G02Z016G0",
  "1Z07G01Z02G01Z05G01Z01K09G02Z02G02Z03G02Z01H06Z01G05Z07G02Z07G03Z05G0bZ0aP01Z01P02Z01P01Z026P0",
  "1Z0aP01Z01P02Z01P01Z04P01Z0aP01Z02P08Z02P01dZ05aI01M01I01Z01I01K01L02M01eZ048G08Z0aG0a6Z036G0",
  "2Z012G014H022Z045G0bZ0aG06Z0dI013Z038F11L01N06Z0aF16Z014P01cZ01aH01K02Z0fH04Z010H07N0b9Z03cK0",
  "64Z053G0cZ01G07M02Z01M02Z08M01Z02M01Z01eM01Z02M02Z0cM09Z0aM046Z08L02Z02eL02Z0bL01bZ048J08Z0",
  "34J02L017J01K05J0dZ010N039G07Z0aO0b6Z022P0eZ0aP06Z09I01Z02dI01Z0eI0aZ01dI03Z020I02Z016I01Z0eI0",
  "49Z07J01Z02J01Z02cJ03Z01J01Z02J01Z09J08Z0aJ06Z06K01Z02K01Z025K01Z02K01Z06K07Z0aK0136Z019K07Z0",
  "11O01Z029O03Z01cO01P055Z01M0fZ032L0dZ01L036fE02aG01H066Z063E0cG01Z04E01G0bZ0c4H0a4cZ063N0dZ0",
  "42fE21O09L01dO0aZ0f9bP05Z0247H01ab9Z03aP06c6Z0239F07Z01fG01Z0aG04Z02G04fN01Z0aN06Z01eG02Z06G0",
  "aZ046G0aZ0aG01Z07G01Z015G05Z013G01b0Z03aP0c6Z05bK065Z045F16L04Z01L02fF19L07Z011F140Z01I01J02L0",
  "1M0bZ02M0eZ017edI05K06L08Z02f3I01e3M029Z01P09M022e7Z04N01Z07N01Z02N01Z02F011dJ04N0fZ01O01dZ0",
  "3L02Z01O0eZ04L08Z018cJ0904Z06bG05Z0dG03Z09G07Z0aG02Z08G0f5cZ0faP06Z01b4P04cZ02eN02Z017N09Z0",
  "74N03cZ0f6C1aZ027C12Z01E1b4C1bH02N015Z046D17aZ014O0cZ014K0cZ057D09Z012E07K087Z055C11Z047C11Z0",
  "2C12Z01C12Z02C12Z04C11Z0cC11Z01C11Z04C11D02C11Z041C11Z04C12Z08C11Z07C11Z01cC11Z04C11Z05C11Z0",
  "1C13Z07C11Z0152C12D12Z0122C12E02Z032C128cH0fZ05H01Z0fH0450Z01fN06Z06O0d5Z07I01Z011I02Z07I01Z0",
  "2I01Z05I05Z03eO021Z01O070Z02dL03Z0eL02Z0aL04Z02L0140Z01fN011Z03aL05Z01L01d0Z02aO0d6Z02bP04Z0",
  "1P01e0Z07N01Z04N01Z02N01Z0fN01Z0c5G02Z010G029Z04bI01L04Z0aI04Z02I0311Z044K04cZ03dL0c2Z04F11Z0",
  "1bF11Z02F11Z01F12Z01F11Z0aF11Z04F11Z01F11Z01F16Z01F14Z01F11Z01F11Z01F11Z03F11Z02F11Z01F12Z01F1",
  "1Z01F11Z01F11Z01F11Z01F11Z02F11Z01F12Z04F11Z07F11Z04F11Z04F11Z01F11Z0aF11Z011F15Z03F11Z05F11Z0",
  "11F134Z02F110eZ02cE14Z064E1cZ0fF02Z0eF01G01Z0fF01Z0fF016G0aZ0bE22G03M01fE21K01F01E2bF01E21F0",
  "1E22F01E23F01E23F05E28F01E27F01E2aF02F11L03M09F01E21F02E22F01E2aF04E22F01E2aF012I01M038Z01aF0",
  "1E22F0dZ022E29F01I04Z09E27Z02F0eZ06J09aZ021F0cG03H06F01G046F01G02H014F0cG025F01G05F04G05H0cG0",
  "11F07G08H03fF01G01F01G0b6F01G04F02G01H03eF02G04F17G05H018F012G01I029G01I056G05F01F110F01F13F0",
  "1F11F01F11F01F11F01F13F01F16F02F14F01F11F02F14F01F1cF02G02H0bF030G046F0aG01H02I02J01L02M04Z0",
  "1O03N0dG03Z04G03I02J01K01L02M03Z074F03O04Z05O055G04K01O06Z0cL04Z01N0fZ0cG04Z038G08Z0aG06Z028G0",
  "8Z01eG02Z02M0aP04Z02P03eZ0cJ01M03L09H06I01J08I08J01I02J0cI01L0cI01J03K0fI0dJ05K01L01M04K02M0",
  "1N01K01L04K05H0dI06J0bK02M06L03M02L0aK06L01H02K08L01M01N03L017J019K054L0cZ0eK02Z04L01M03O03L0",
  "2N03Z03L04M02O01P05Z01P06L013M04N03O07M04N03O01P01O03M03N01P07Z02O07M03N02O01P02Z01P08N01O01P0",
  "6Z07N02O07Z093M01Z037M025P0aM0404Z02B0a6d7C17M02N020Z01035E24N01O06Z0deF02Z01682H0eZ01d31J0fZ0",
  "26eO19a2Z021eC15e0Z02B0134bM05Z01060O0dc4eZ02B0fffeZ02B0fffeZ02B0fffeZ02B0fffeZ02B0fffeZ02B0",
  "fffeZ02B0fffeZ02B0fffeZ02B0fffeZ02B0fffeZ02B01Z01C11eZ060C180Z0f0D0fe0eZ020002B0"]

/-- The runs of one age, in order. -/
def runs : List Run :=
  Run.ofTable 2 table

/-- The label of a version. -/
def label (version : Nat × Nat) : String :=
  String.singleton (Char.ofNat ('A'.toNat + version.1 - 1)) ++ toString version.2

/-- The version with a name, which is two numbers with a dot, or without one after a `v`. -/
def version? (name : String) : Option (Nat × Nat) :=
  versions.find? fun (a, b) =>
    name = toString a ++ "." ++ toString b || name = "v" ++ toString a ++ toString b

/-- The characters that a version knows. -/
def upTo (version : Nat × Nat) : CodeSet :=
  Run.select (· ≤ label version) runs

end EndpointMonitor.Age
