import CronSweep.Definition

def main : IO Unit := IO.print CronSweep.Definition.text
