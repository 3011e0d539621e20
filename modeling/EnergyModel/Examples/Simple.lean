/-!
# The bundled example model

A small electricity system, with its input tables, two scenarios (`A` and `B`) and a selection of
variables for generating cases. Each file is given by its path within the example.
-/

namespace EnergyModel.Examples

/-- A bundled example: its name and its files, by path within it, in path order. -/
structure Example where
  name : String
  files : List (String × String)
  deriving Inhabited

/-- The files of the example `simple`. -/
def simpleFiles : List (String × String) := [
  ("README.txt",
      "A small electricity system with coal, gas, solar and battery plants supplying a single demand\n" ++
      "through one transmission connection.\n" ++
      "\n" ++
      "Two scenarios are defined:\n" ++
      "\n" ++
      "  A  Existing coal fleet with gas and solar, baseload and ramping constraints\n" ++
      "  B  Coal phase-out with batteries, renewable portfolio standard and emission limits\n" ++
      "\n" ++
      "The sensitivity folder selects which variables are varied when generating cases.\n"),
  ("inputs/Connections.csv",
      "connection,input,output,Loss,Lifetime,EmissionActivity,CostInvest,CostVariable,CostInvestIncr,CostVariableIncr,FirstBuild,LastBuild\n" ++
      "ELC_TX,ELC,ELC_DMD,5,50,,800,,,,,\n"),
  ("inputs/ConnectionsExisting.csv",
      "connection,YearInstalled,Capacity\n" ++
      "ELC_TX,2000,5000\n"),
  ("inputs/Demand.csv",
      "Year,Demand,RPS\n" ++
      "2020,100,0.1\n" ++
      "2030,115,0.2\n" ++
      "2040,130,0.3\n" ++
      "2050,140,\n"),
  ("inputs/DemandTOD.csv",
      "representativeDay,timeOfDay,dmdFrac\n" ++
      "summer,day,0.6\n" ++
      "summer,night,0.4\n" ++
      "winter,day,0.55\n" ++
      "winter,night,0.45\n"),
  ("inputs/DiscountRateGlobal.csv",
      "DiscountRate\n" ++
      "0.05\n"),
  ("inputs/DiscountRateTech.csv",
      "powerplant,DiscountRate,Ref_DiscountRate\n" ++
      "SOLAR_PP,0.07,Utility-scale solar financing survey\n"),
  ("inputs/Emission.csv",
      "periods,emis_comm,emis_limit,emis_limit_units,emis_limit_notes\n" ++
      "2030,CO2,40000,kt,Interim target\n" ++
      "2040,CO2,20000,kt,Long-term target\n"),
  ("inputs/Fuels.csv",
      "fuel,Lifetime,EmissionActivity,CostInvest,CostVariable,CostInvestIncr,CostVariableIncr,MaxActivity,Retirement,FirstBuild,LastBuild\n" ++
      "COAL,100,90.7,,2.5,,,,,,\n" ++
      "NATGAS,100,50.3,,4.0,,1,,,,\n" ++
      "SOLAR,100,,,,,,,,,\n"),
  ("inputs/FuelsExisting.csv",
      "fuel,YearInstalled,Capacity\n" ++
      "COAL,2000,3000\n" ++
      "NATGAS,2000,2000\n"),
  ("inputs/MinCapacity.csv",
      "Technology,Year,MinCapacity\n" ++
      "SOLAR_PP,2030,200\n"),
  ("inputs/PowerPlants.csv",
      "powerplant,fuel,output,baseload,reserve,newBuilds,renewable,storage,CapacityCredit,StorageDuration\n" ++
      "COAL_PP,COAL,ELC,Y,Y,N,N,N,0.9,\n" ++
      "GAS_PP,NATGAS,ELC,N,Y,Y,N,N,0.9,\n" ++
      "SOLAR_PP,SOLAR,ELC,N,N,Y,Y,N,0.3,\n" ++
      "BATT_PP,ELC,ELC,N,Y,Y,N,Y,0.8,4\n"),
  ("inputs/PowerPlantsConstraints.csv",
      "powerplant,MaxCapacity,MaxActivity,RampRate,FirstBuild,LastBuild\n" ++
      "COAL_PP,,,0.3,,\n" ++
      "GAS_PP,,,0.8,,\n" ++
      "SOLAR_PP,5000,,,2020,\n" ++
      "BATT_PP,2000,,,2030,\n"),
  ("inputs/PowerPlantsCosts.csv",
      "powerplant,CostInvest,CostFixed,CostVariable,CostInvestIncr,CostFixedIncr,CostVariableIncr,DiscountRate,Ref_DiscountRate\n" ++
      "COAL_PP,3500,40,4.5,,,,,\n" ++
      "GAS_PP,1000,12,3.5,,,,0.06,Merchant generator\n" ++
      "SOLAR_PP,1200,15,,-2,,,0.07,Utility-scale solar financing survey\n" ++
      "BATT_PP,1500,30,,-3,,,,\n"),
  ("inputs/PowerPlantsExisting.csv",
      "powerplant,YearInstalled,Capacity\n" ++
      "COAL_PP,1990,1500\n" ++
      "COAL_PP,2005,1000\n" ++
      "GAS_PP,2010,800\n"),
  ("inputs/PowerPlantsPerformance.csv",
      "powerplant,Efficiency,HeatRate,ExpectedLifetime,CapacityFactor\n" ++
      "COAL_PP,33,10339,40,85\n" ++
      "GAS_PP,50,6824,30,60\n" ++
      "SOLAR_PP,100,,25,25\n" ++
      "BATT_PP,85,,15,\n"),
  ("inputs/ReserveMargin.csv",
      "ReserveMargin\n" ++
      "0.15\n"),
  ("inputs/capacityFactorTOD.csv",
      "fuel,representativeDay,timeOfDay,capacityFactor\n" ++
      "SOLAR,summer,day,0.55\n" ++
      "SOLAR,summer,night,0.0\n" ++
      "SOLAR,winter,day,0.35\n" ++
      "SOLAR,winter,night,0.0\n"),
  ("inputs/ref.csv",
      "variable,source\n" ++
      "Demand,Regional utility load forecast\n" ++
      "Costs,Annual technology baseline\n"),
  ("inputs/representativeDays.csv",
      "representativeDay,timeFrac,dmdFrac\n" ++
      "summer,0.5,0.55\n" ++
      "winter,0.5,0.45\n"),
  ("inputs/timesOfDay.csv",
      "timeOfDay,timeFrac\n" ++
      "day,0.5\n" ++
      "night,0.5\n"),
  ("scenarios/Connections.csv",
      "Scenario,A,B\n" ++
      "ELC_TX,Y,Y\n"),
  ("scenarios/Fuels.csv",
      "Scenario,A,B\n" ++
      "COAL,Y,N\n" ++
      "NATGAS,Y,Y\n" ++
      "SOLAR,Y,Y\n"),
  ("scenarios/PowerPlants.csv",
      "Scenario,A,B\n" ++
      "COAL_PP,Y,N\n" ++
      "GAS_PP,Y,Y\n" ++
      "SOLAR_PP,Y,Y\n" ++
      "BATT_PP,N,Y\n"),
  ("scenarios/SolverSettings.csv",
      "Scenario,A,B\n" ++
      "include_baseload,Y,N\n" ++
      "include_reserve_margin,Y,Y\n" ++
      "include_ramping,Y,N\n" ++
      "include_growth_limit,Y,Y\n" ++
      "include_RPS,N,Y\n" ++
      "include_emission_limit,N,Y\n" ++
      "include_min_capacity_limit,N,Y\n" ++
      "MaxGrowthRate,10,20\n" ++
      "MinGrowthSeed,100,100\n" ++
      "MaxLoan_yrs,20,\n"),
  ("sensitivity/Connections.csv",
      "variable,include\n" ++
      "Loss,N\n" ++
      "CostInvest,N\n"),
  ("sensitivity/Fuels.csv",
      "variable,include\n" ++
      "CostVariable,Y\n" ++
      "EmissionActivity,N\n"),
  ("sensitivity/Globals.csv",
      "variable,include\n" ++
      "DiscountRate,Y\n" ++
      "ReserveMargin,N\n" ++
      "MaxGrowthRate,Y\n" ++
      "MinGrowthSeed,N\n"),
  ("sensitivity/PowerPlants.csv",
      "variable,include\n" ++
      "Efficiency,Y\n" ++
      "CostInvest,Y\n" ++
      "CostFixed,N\n" ++
      "ExpectedLifetime,N\n" ++
      "CapacityFactor,N\n")]

/-- The example `simple`. -/
def simple : Example := ⟨"simple", simpleFiles⟩

/-- Every bundled example, by name. -/
def all : List Example := [simple]

end EnergyModel.Examples
